import ClusterGate.Yaml.Scalar
import ClusterGate.Yaml.Tag

/-!
# Tokens

`Token.ofText` cuts a document into tokens. Block collections are recognised by their indentation: a
start token stands where a deeper column is first used, and an end token where it is left again. A
key of a mapping is often recognised only by the colon after it, so the place before every token
that may be a key is remembered until the colon comes or the line ends.
-/

namespace ClusterGate.Yaml

inductive Token
  | directive (d : Directive)
  | documentStart
  | documentEnd
  | blockSequenceStart
  | blockMappingStart
  | blockEnd
  | flowSequenceStart
  | flowSequenceEnd
  | flowMappingStart
  | flowMappingEnd
  | flowEntry
  /-- A dash before an entry of a block sequence. -/
  | blockEntry
  | key
  | value
  | alias (name : String)
  | anchor (name : String)
  | tag (t : TagName)
  | scalar (style : ScalarStyle) (text : String)
  deriving DecidableEq, Repr

/-- A place where a key may turn out to begin. -/
structure KeyPlace where
  /-- How many tokens stand before it. -/
  position : Nat
  index : Nat
  line : Nat
  column : Nat
  /-- Nothing but a key can begin there. -/
  required : Bool
  deriving DecidableEq, Repr

/-- The tokens up to some place of a document, and what has to be known about them to go on. -/
structure Tokens where
  cursor : Cursor
  tokens : List Token
  /-- The columns of the open block collections, the innermost first. -/
  columns : List Nat
  /-- Where a key of the innermost collection may begin. -/
  place : Option KeyPlace
  /-- The same for the collections around the open flow collections, one for each of these. -/
  outer : List (Option KeyPlace)
  /-- A key may begin at the next token. -/
  keyAllowed : Bool
  deriving Repr

namespace Tokens

def start (text : List Char) : Tokens where
  cursor := .start text
  tokens := []
  columns := []
  place := none
  outer := []
  keyAllowed := true

def inFlow (s : Tokens) : Bool := !s.outer.isEmpty

def push (s : Tokens) (t : Token) : Tokens := { s with tokens := s.tokens ++ [t] }

def insert (s : Tokens) (n : Nat) (t : Token) : Tokens :=
  { s with tokens := s.tokens.take n ++ t :: s.tokens.drop n }

/-- Add a token of `n` characters. -/
def pushHere (s : Tokens) (t : Token) (n : Nat) : Tokens :=
  { s.push t with cursor := s.cursor.advance n }

def allowKey (s : Tokens) (b : Bool) : Tokens := { s with keyAllowed := b }

/-! ### Block collections -/

/-- The column lies deeper than those of the open block collections. -/
def isDeeper (s : Tokens) (column : Nat) : Bool := s.columns.head?.all (· < column)

/-- Open a block collection at a column that lies deeper, with its start after the first `n` tokens.
-/
def openBlock (s : Tokens) (column n : Nat) (t : Token) : Tokens :=
  if !s.inFlow && s.isDeeper column then { s.insert n t with columns := column :: s.columns } else s

def openBlockHere (s : Tokens) (t : Token) : Tokens :=
  s.openBlock s.cursor.column s.tokens.length t

/-- Close the block collections that are deeper than a column. -/
def closeBlocks (s : Tokens) (column : Nat) : Tokens :=
  if s.inFlow then s
  else
    let left := s.columns.dropWhile (column < ·)
    { s with
      tokens := s.tokens ++ List.replicate (s.columns.length - left.length) .blockEnd
      columns := left }

def closeAllBlocks (s : Tokens) : Tokens :=
  if s.inFlow then s
  else { s with tokens := s.tokens ++ List.replicate s.columns.length .blockEnd, columns := [] }

/-! ### Keys -/

/-- How far a key may reach in a document. -/
def keyLength : Nat := 1024

/-- A key from this place would go over a line's end or reach too far. -/
def isPast (c : Cursor) (k : KeyPlace) : Bool := k.line < c.line || k.index + keyLength < c.index

/-- Forget a place where no key can begin any more. -/
def expire (c : Cursor) : Option KeyPlace → Except Fault (Option KeyPlace)
  | none => .ok none
  | some k =>
    if isPast c k then
      if k.required then .error .missingColon else .ok none
    else .ok (some k)

/-- Forget the places where no key can begin any more. -/
def expireAll (s : Tokens) : Except Fault Tokens := do
  let place ← expire s.cursor s.place
  let outer ← s.outer.mapM (expire s.cursor)
  return { s with place, outer }

/-- Give up the place of the innermost collection. -/
def dropPlace (s : Tokens) : Except Fault Tokens :=
  if s.place.any (·.required) then .error .missingColon else .ok { s with place := none }

/-- Remember the cursor as a place where a key may begin, if one is allowed there. -/
def markPlace (s : Tokens) : Except Fault Tokens :=
  if s.keyAllowed then do
    let s ← s.dropPlace
    return { s with
      place := some {
        position := s.tokens.length
        index := s.cursor.index
        line := s.cursor.line
        column := s.cursor.column
        required := !s.inFlow && s.columns.head? == some s.cursor.column } }
  else .ok s

/-! ### One token after the other -/

/-- Move over spaces, comments and line breaks to the next token. A tab is no space where a key may
begin. -/
def toNextToken : (fuel : Nat) → Tokens → Tokens
  | 0, s => s
  | fuel + 1, s =>
    let c := s.cursor
    let c := if c.column = 0 && c.isAt '\uFEFF' then c.advance 1 else c
    let tabs := s.inFlow || !s.keyAllowed
    let c := c.skip fun ch => ch = ' ' || (tabs && ch = '\t')
    let c := if c.isAt '#' then c.skipLine else c
    if c.atBreak then
      toNextToken fuel { s with cursor := c.readBreak.2, keyAllowed := s.keyAllowed || !s.inFlow }
    else { s with cursor := c }

/-- A token that ends all block collections. -/
def outermost (s : Tokens) : Except Fault Tokens := do
  let s ← s.closeAllBlocks.dropPlace
  return s.allowKey false

def directive (s : Tokens) : Except Fault Tokens := do
  let s ← s.outermost
  let (d, c) ← Directive.read s.cursor
  return { s.push (.directive d) with cursor := c }

def marker (s : Tokens) (t : Token) : Except Fault Tokens := do
  let s ← s.outermost
  return s.pushHere t 3

def openFlow (s : Tokens) (t : Token) : Except Fault Tokens := do
  let s ← s.markPlace
  return { (s.pushHere t 1).allowKey true with place := none, outer := s.place :: s.outer }

def closeFlow (s : Tokens) (t : Token) : Except Fault Tokens := do
  let s ← s.dropPlace
  let s := (s.pushHere t 1).allowKey false
  return match s.outer with
    | [] => s
    | place :: outer => { s with place, outer }

def comma (s : Tokens) : Except Fault Tokens := do
  let s ← s.dropPlace
  return (s.pushHere .flowEntry 1).allowKey true

def dash (s : Tokens) : Except Fault Tokens := do
  if !s.inFlow && !s.keyAllowed then throw .misplacedEntry
  let s ← (s.openBlockHere .blockSequenceStart).dropPlace
  return (s.pushHere .blockEntry 1).allowKey true

def question (s : Tokens) : Except Fault Tokens := do
  if !s.inFlow && !s.keyAllowed then throw .misplacedKey
  let s ← (s.openBlockHere .blockMappingStart).dropPlace
  return (s.pushHere .key 1).allowKey !s.inFlow

/-- A colon. Where a key may have begun before it on its line, one has. -/
def colon (s : Tokens) : Except Fault Tokens :=
  match s.place with
  | some k =>
    let s := (s.insert k.position .key).openBlock k.column k.position .blockMappingStart
    .ok { (s.pushHere .value 1).allowKey false with place := none }
  | none => do
    if !s.inFlow && !s.keyAllowed then throw .misplacedValue
    let s := s.openBlockHere .blockMappingStart
    return (s.pushHere .value 1).allowKey !s.inFlow

/-- The characters besides blanks that may follow the name of an anchor. -/
def afterAnchor : List Char := ['?', ':', ',', ']', '\x7d', '%', '@', '\x60']

/-- An anchor or an alias. -/
def named (s : Tokens) (t : String → Token) : Except Fault Tokens := do
  let s ← s.markPlace
  let (name, c) := (s.cursor.advance 1).span isNameChar
  if name.isEmpty || !(c.wordEndsAt 0 || c.startsWith afterAnchor.contains) then throw .anchorName
  return { (s.push (t (String.ofList name))).allowKey false with cursor := c }

def tag (s : Tokens) : Except Fault Tokens := do
  let s ← s.markPlace
  let (t, c) ← TagName.read s.inFlow s.cursor
  return { (s.push (.tag t)).allowKey false with cursor := c }

def block (s : Tokens) (style : ScalarStyle) : Except Fault Tokens := do
  let s ← s.dropPlace
  let (text, c) ← Block.read style s.columns.head? s.cursor
  return { (s.push (.scalar style (String.ofList text))).allowKey true with cursor := c }

def quoted (s : Tokens) (style : ScalarStyle) (quote : Char) : Except Fault Tokens := do
  let s ← s.markPlace
  let (text, c) ← Quoted.read quote s.cursor
  return { (s.push (.scalar style (String.ofList text))).allowKey false with cursor := c }

def plain (s : Tokens) : Except Fault Tokens := do
  let s ← s.markPlace
  let indent := s.columns.head?.elim 0 (· + 1)
  let ((text, broken), c) ← Plain.read s.inFlow indent s.cursor
  return { (s.push (.scalar .plain (String.ofList text))).allowKey broken with cursor := c }

/-- The characters that start no plain scalar. -/
def indicators : List Char := "-?:,[]\x7b\x7d#&*!|>'\"%@\x60".toList

/-- A plain scalar starts at the cursor: with a character that is no indicator, or with one that is
followed by something that makes it none. -/
def startsPlain (flow : Bool) (c : Cursor) (ch : Char) : Bool :=
  !indicators.contains ch || (ch = '-' && !(c.peekAt? 1).any isSpace) ||
    (!flow && (ch = '?' || ch = ':') && !c.wordEndsAt 1)

/-- Add the token that starts with the character at the cursor. -/
def dispatch (s : Tokens) (ch : Char) : Except Fault Tokens :=
  let c := s.cursor
  let flow := s.inFlow
  if c.column = 0 && ch = '%' then s.directive
  else if c.atMarker '-' then s.marker .documentStart
  else if c.atMarker '.' then s.marker .documentEnd
  else if ch = '[' then s.openFlow .flowSequenceStart
  else if ch = '\x7b' then s.openFlow .flowMappingStart
  else if ch = ']' then s.closeFlow .flowSequenceEnd
  else if ch = '\x7d' then s.closeFlow .flowMappingEnd
  else if ch = ',' then s.comma
  else if ch = '-' && c.wordEndsAt 1 then s.dash
  else if ch = '?' && (flow || c.wordEndsAt 1) then s.question
  else if ch = ':' && (flow || c.wordEndsAt 1) then s.colon
  else if ch = '*' then s.named .alias
  else if ch = '&' then s.named .anchor
  else if ch = '!' then s.tag
  else if ch = '|' && !flow then s.block .literal
  else if ch = '>' && !flow then s.block .folded
  else if ch = '\'' then s.quoted .singleQuoted ch
  else if ch = '"' then s.quoted .doubleQuoted ch
  else if !isSpace ch && startsPlain flow c ch then s.plain
  else .error (.unexpectedCharacter ch)

/-- Add the tokens that are left. -/
def finish : (fuel : Nat) → Tokens → Except Fault (List Token)
  | 0, s => .ok s.tokens
  | fuel + 1, s => do
    let s ← (toNextToken (s.cursor.rest.length + 1) s).expireAll
    match s.cursor.peek? with
    | none =>
      let s ← s.closeAllBlocks.dropPlace
      return s.tokens
    | some ch =>
      let s ← (s.closeBlocks s.cursor.column).dispatch ch
      finish fuel s

end Tokens

def Token.ofText (text : List Char) : Except Fault (List Token) :=
  match text.find? (!isPrintable ·) with
  | some c => .error (.controlCharacter c)
  | none => Tokens.finish (text.length + 1) (.start text)

end ClusterGate.Yaml
