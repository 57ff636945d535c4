import ClusterGate.Text.Decimal
import ClusterGate.Yaml.Cursor
import ClusterGate.Yaml.Fault

/-!
# Scalars

A scalar is written plain, in single or double quotes, or as a literal or folded block of lines.
Each reader below starts at the first character of a scalar and returns its text and where it ends.
-/

namespace ClusterGate.Yaml

inductive ScalarStyle
  | plain
  | singleQuoted
  | doubleQuoted
  | literal
  | folded
  deriving DecidableEq, Repr

/-! ### Gaps between the words of a scalar -/

/-- What stands between two words: spaces within a line, or line breaks with the spaces around them
left out. The first break is told from the others. -/
inductive Gap
  | spaces (text : List Char)
  | breaks (first more : List Char)
  deriving DecidableEq, Repr

namespace Gap

/-- The text that a gap stands for. Spaces stand for themselves. One line feed stands for a space,
and more of them for one line feed less. Other breaks stand for themselves. -/
def text : Gap → List Char
  | spaces s => s
  | breaks ('\n' :: _) [] => [' ']
  | breaks ('\n' :: _) more => more
  | breaks first more => first ++ more

def isBroken : Gap → Bool
  | spaces _ => false
  | breaks _ _ => true

def addSpace (ch : Char) : Gap → Gap
  | spaces s => spaces (s ++ [ch])
  | breaks first more => breaks first more

def addBreak (text : List Char) : Gap → Gap
  | spaces _ => breaks text []
  | breaks first more => breaks first (more ++ text)

/-- Read on in a gap as far as it goes. In a line that is indented by less than `indent`, a tab is a
fault. -/
def read (indent : Nat) : (fuel : Nat) → Gap → Cursor → Except Fault (Gap × Cursor)
  | 0, gap, c => .ok (gap, c)
  | fuel + 1, gap, c =>
    match c.peek? with
    | none => .ok (gap, c)
    | some ch =>
      if isSpace ch then
        if gap.isBroken && c.column < indent && ch = '\t' then .error .tabIndent
        else read indent fuel (gap.addSpace ch) (c.advance 1)
      else if isBreak ch then
        let (text, next) := c.readBreak
        read indent fuel (gap.addBreak text) next
      else .ok (gap, c)

end Gap

/-! ### Plain scalars -/

namespace Plain

/-- The character is an indicator of flow collections that ends a plain scalar in them. -/
def endsInFlow (ch : Char) : Bool := ch = ',' || ch = '[' || ch = ']' || ch = '\x7b' || ch = '\x7d'

/-- A plain scalar ends before the next character. -/
def endsAt (flow : Bool) (c : Cursor) : Bool :=
  (c.isAt ':' && c.wordEndsAt 1) || (flow && c.startsWith endsInFlow)

/-- In a flow collection a colon may not stand right before an indicator. -/
def isAmbiguous (flow : Bool) (c : Cursor) : Bool :=
  flow && c.isAt ':' && (c.peekAt? 1).any fun ch => endsInFlow ch || ch = '?'

/-- Read the characters up to a gap or to the end of the scalar. -/
def word (flow : Bool) : (fuel : Nat) → Cursor → Except Fault (List Char × Cursor)
  | 0, c => .ok ([], c)
  | fuel + 1, c =>
    match c.peek? with
    | none => .ok ([], c)
    | some ch =>
      if isSpace ch || isBreak ch then .ok ([], c)
      else if isAmbiguous flow c then .error .ambiguousColon
      else if endsAt flow c then .ok ([], c)
      else do
        let (more, next) ← word flow fuel (c.advance 1)
        return (ch :: more, next)

/-- Read the rest of a scalar, whose text so far ends before a gap. The answer also says whether the
scalar ends after a line break. -/
def continued (flow : Bool) (indent : Nat) : (fuel : Nat) → List Char → Gap → Cursor →
    Except Fault ((List Char × Bool) × Cursor)
  | 0, text, gap, c => .ok ((text, gap.isBroken), c)
  | fuel + 1, text, gap, c => do
    if c.atAnyMarker || c.isAt '#' then return ((text, gap.isBroken), c)
    let (run, c) ← word flow (c.rest.length + 1) c
    if run.isEmpty then return ((text, gap.isBroken), c)
    let text := text ++ gap.text ++ run
    if !(c.atSpace || c.atBreak) then return ((text, false), c)
    let (gap, c) ← Gap.read indent (c.rest.length + 1) (.spaces []) c
    if !flow && c.column < indent then return ((text, gap.isBroken), c)
    continued flow indent fuel text gap c

/-- Read a plain scalar. Outside of flow collections its lines are indented by `indent` or more. -/
def read (flow : Bool) (indent : Nat) (c : Cursor) : Except Fault ((List Char × Bool) × Cursor) :=
  continued flow indent (c.rest.length + 1) [] (.spaces []) c

end Plain

/-! ### Quoted scalars -/

namespace Quoted

/-- The characters that stand for one character after a backslash, and the ones they stand for. -/
def escapes : List (Char × Char) :=
  [('0', '\x00'), ('a', '\x07'), ('b', '\x08'), ('t', '\t'), ('\t', '\t'), ('n', '\n'),
    ('v', '\x0B'), ('f', '\x0C'), ('r', '\r'), ('e', '\x1B'), (' ', ' '), ('"', '"'), ('/', '/'),
    ('\\', '\\'), ('N', '\u0085'), ('_', '\u00A0'), ('L', '\u2028'), ('P', '\u2029')]

/-- The characters that announce the number of a character, and how many digits it has. -/
def numbered : List (Char × Nat) := [('x', 2), ('u', 4), ('U', 8)]

/-- The character with a hexadecimal number. -/
def numberedChar? (digits : List Char) : Option Char := do
  let values ← digits.mapM Text.hexValue?
  let n := values.foldl (fun n d => 16 * n + d) 0
  if n.isValidChar then some (Char.ofNat n) else none

/-- Read what follows a backslash within a line. -/
def escape (c : Cursor) : Except Fault (Char × Cursor) :=
  match c.peek? with
  | none => .error .unclosedQuote
  | some ch =>
    match escapes.lookup ch, numbered.lookup ch with
    | some meant, _ => .ok (meant, c.advance 1)
    | none, none => .error (.unknownEscape ch)
    | none, some n =>
      let digits := (c.rest.drop 1).take n
      match numberedChar? digits with
      | some meant =>
        if digits.length = n then .ok (meant, c.advance (n + 1)) else .error .badEscape
      | none => .error .badEscape

/-- Read the characters up to a gap or to the closing quote, and what the gap begins with: a line
break after a backslash stands for nothing. -/
def word (quote : Char) : (fuel : Nat) → Cursor → Except Fault ((List Char × Gap) × Cursor)
  | 0, c => .ok (([], .spaces []), c)
  | fuel + 1, c =>
    match c.peek? with
    | none => .ok (([], .spaces []), c)
    | some ch =>
      if isSpace ch || isBreak ch then .ok (([], .spaces []), c)
      else if ch = quote then
        if quote = '\'' && c.peekAt? 1 == some '\'' then do
          let ((more, gap), next) ← word quote fuel (c.advance 2)
          return (('\'' :: more, gap), next)
        else .ok (([], .spaces []), c)
      else if quote = '"' && ch = '\\' then do
        if (c.peekAt? 1).any isBreak then
          return (([], .breaks [] []), (c.advance 1).readBreak.2)
        let (meant, next) ← escape (c.advance 1)
        let ((more, gap), next) ← word quote fuel next
        return ((meant :: more, gap), next)
      else do
        let ((more, gap), next) ← word quote fuel (c.advance 1)
        return ((ch :: more, gap), next)

/-- Read the rest of a scalar up to its closing quote. -/
def continued (quote : Char) : (fuel : Nat) → List Char → Cursor → Except Fault (List Char × Cursor)
  | 0, _, _ => .error .unclosedQuote
  | fuel + 1, text, c => do
    if c.atAnyMarker then throw .markerInQuote
    if c.atEnd then throw .unclosedQuote
    let ((run, gap), c) ← word quote (c.rest.length + 1) c
    if c.isAt quote then return (text ++ run, c.advance 1)
    let (gap, c) ← Gap.read 0 (c.rest.length + 1) gap c
    continued quote fuel (text ++ run ++ gap.text) c

def read (quote : Char) (c : Cursor) : Except Fault (List Char × Cursor) :=
  continued quote (c.rest.length + 1) [] (c.advance 1)

end Quoted

/-! ### Block scalars -/

namespace Block

/-- What becomes of the line breaks at the end of a block. -/
inductive Chomping
  | strip
  | clip
  | keep
  deriving DecidableEq, Repr

/-- The indicators after the one that starts the block. -/
structure Header where
  chomping : Chomping
  /-- By how much the block is indented against its surroundings, if that is given. -/
  indent : Option Nat
  deriving DecidableEq, Repr

def chomping (c : Cursor) : Chomping × Cursor :=
  if c.isAt '+' then (.keep, c.advance 1)
  else if c.isAt '-' then (.strip, c.advance 1)
  else (.clip, c)

def increment (c : Cursor) : Except Fault (Option Nat × Cursor) :=
  match c.peek? with
  | some '0' => .error .blockHeader
  | some ch => if ch.isDigit then .ok (Text.hexValue? ch, c.advance 1) else .ok (none, c)
  | none => .ok (none, c)

/-- Read the two indicators, in either order, and the rest of their line. -/
def header (c : Cursor) : Except Fault (Header × Cursor) := do
  let (early, c) := chomping c
  let (indent, c) ← increment c
  let (late, c) := if early = .clip && indent.isSome then chomping c else (early, c)
  let c := c.skip isSpace
  let c := if c.isAt '#' then c.skipLine else c
  if c.atLineEnd then return (⟨late, indent⟩, c.readBreak.2) else throw .blockHeader

/-- Move over the lines that are empty but for spaces, up to column `indent` of the next line.
Return their breaks and the widest column that was met. While the indentation is not known, spaces
count for it as far as they go. -/
def emptyLines (indent : Option Nat) :
    (fuel : Nat) → (widest : Nat) → Cursor → Except Fault ((List Char × Nat) × Cursor)
  | 0, widest, c => .ok (([], widest), c)
  | fuel + 1, widest, c => do
    let room := indent.elim c.rest.length (· - c.column)
    let spaces := (c.rest.take room).takeWhile (· = ' ')
    let c := c.advance spaces.length
    let widest := max widest c.column
    if indent.all (c.column < ·) && c.isAt '\t' then throw .tabIndent
    if !c.atBreak then return (([], widest), c)
    let (text, c) := c.readBreak
    let ((more, widest), c) ← emptyLines indent fuel widest c
    return ((text ++ more, widest), c)

/-- The text between two lines of a block, given the break that ends the first of them, the breaks
of the empty lines that follow, and whether one of the two lines starts with a space. In a folded
block a line feed between lines that do not is a space, or nothing before empty lines. -/
def joint (style : ScalarStyle) (ending empty : List Char) (spaced : Bool) : List Char :=
  if style = .folded && ending == ['\n'] && !spaced then
    if empty.isEmpty then [' '] else empty
  else ending ++ empty

/-- Read the lines of a block from the beginning of one. -/
def lines (style : ScalarStyle) (chomping : Chomping) (indent : Nat) :
    (fuel : Nat) → (text ending empty : List Char) → (spaced : Bool) → Cursor →
      Except Fault (List Char × Cursor)
  | 0, text, _, _, _, c => .ok (text, c)
  | fuel + 1, text, ending, empty, spaced, c => do
    if c.column = indent && !c.atEnd then
      let text := text ++ joint style ending empty (spaced || c.atSpace)
      let spaced := c.atSpace
      let (line, c) := c.span fun ch => !isBreak ch
      let (ending, c) := c.readBreak
      let ((empty, _), c) ← emptyLines (some indent) (c.rest.length + 1) 0 c
      lines style chomping indent fuel (text ++ line) ending empty spaced c
    else
      return (match chomping with
        | .strip => text
        | .clip => text ++ ending
        | .keep => text ++ ending ++ empty, c)

/-- Read a block scalar that stands in a collection at column `outer`, if it stands in one. Where
the indentation is not given, the widest of the leading empty lines and the first line with text set
it. -/
def read (style : ScalarStyle) (outer : Option Nat) (c : Cursor) :
    Except Fault (List Char × Cursor) := do
  let (head, c) ← header (c.advance 1)
  let given := head.indent.map (outer.getD 0 + ·)
  let ((empty, widest), c) ← emptyLines given (c.rest.length + 1) 0 c
  let indent := given.getD (max widest (max (outer.elim 0 (· + 1)) 1))
  lines style head.chomping indent (c.rest.length + 1) [] [] empty false c

end Block

end ClusterGate.Yaml
