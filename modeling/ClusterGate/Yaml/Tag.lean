import ClusterGate.Text.Decimal
import ClusterGate.Yaml.Cursor
import ClusterGate.Yaml.Fault

/-!
# Tags and directives

A tag is written as a handle and a suffix. What a handle stands for is said by the directives before
a document; two handles have a meaning of their own.
-/

namespace ClusterGate.Yaml

/-- A tag as it is written. The handle of a tag that is written in full is empty. -/
structure TagName where
  handle : String
  suffix : String
  deriving DecidableEq, Repr

/-- A line before a document that says how to read it. -/
inductive Directive
  | version (major minor : Nat)
  | tag (handle expansion : String)
  deriving DecidableEq, Repr

namespace TagName

/-! ### Reading tags -/

/-- The characters besides letters and digits that may stand in a tag. -/
def marks : List Char := "_-;/?:@&=+$.%!~*'()".toList

/-- The characters that may in addition stand in a tag written in full. -/
def fullMarks : List Char := [',', '[', ']']

def isTagChar (full : Bool) (c : Char) : Bool :=
  c.isAlphanum || marks.contains c || (full && fullMarks.contains c)

/-- How many bytes the character has whose first byte is this one. -/
def byteCount? (first : Nat) : Option Nat :=
  if first < 0x80 then some 1
  else if first / 0x20 = 0x6 then some 2
  else if first / 0x10 = 0xE then some 3
  else if first / 0x8 = 0x1E then some 4
  else none

/-- Read one byte, written as a percent sign and two hexadecimal digits. -/
def escapedByte (c : Cursor) : Except Fault (Nat × Cursor) :=
  match c.rest with
  | '%' :: a :: b :: _ =>
    match Text.hexValue? a, Text.hexValue? b with
    | some a, some b => .ok (16 * a + b, c.advance 3)
    | _, _ => .error .tagName
  | _ => .error .tagName

/-- Read `n` bytes that continue a character. -/
def continuation : (n : Nat) → Cursor → Except Fault (List Nat × Cursor)
  | 0, c => .ok ([], c)
  | n + 1, c => do
    let (byte, c) ← escapedByte c
    if byte / 0x40 ≠ 0x2 then throw .tagName
    let (more, c) ← continuation n c
    return (byte :: more, c)

/-- Read a character that is written as its bytes. Bytes that are the encoding of no character stand
for the replacement character. -/
def escapedChar (c : Cursor) : Except Fault (Char × Cursor) := do
  let (first, c) ← escapedByte c
  match byteCount? first with
  | none => throw .tagName
  | some n =>
    let (more, c) ← continuation (n - 1) c
    let bytes := ByteArray.mk ((first :: more).map UInt8.ofNat).toArray
    return (((String.fromUTF8? bytes).bind (·.toList.head?)).getD '\uFFFD', c)

/-- Read the longest text of a tag. -/
def chars (full : Bool) : (fuel : Nat) → Cursor → Except Fault (List Char × Cursor)
  | 0, c => .ok ([], c)
  | fuel + 1, c =>
    match c.peek? with
    | none => .ok ([], c)
    | some ch =>
      if !isTagChar full ch then .ok ([], c)
      else do
        let (ch, c) ← if ch = '%' then escapedChar c else .ok (ch, c.advance 1)
        let (more, c) ← chars full fuel c
        return (ch :: more, c)

/-- The part of a tag that counts. A null character ends it. -/
def upToNull (text : List Char) : List Char := text.takeWhile (· ≠ '\x00')

/-- Read the text of a tag, which is not empty. -/
def uri (full : Bool) (c : Cursor) : Except Fault (String × Cursor) := do
  let (text, c) ← chars full (c.rest.length + 1) c
  if text.isEmpty then throw .tagName
  return (String.ofList (upToNull text), c)

/-- Read an exclamation mark with the name after it, and a second exclamation mark if one follows.
-/
def handleText (c : Cursor) : Except Fault (List Char × Cursor) := do
  if !c.isAt '!' then throw .tagName
  let (name, c) := (c.advance 1).span isNameChar
  if c.isAt '!' then return ('!' :: name ++ ['!'], c.advance 1)
  return ('!' :: name, c)

/-- The tag that is an exclamation mark and nothing more. -/
def unspecific : String := "!"

/-- A text of two exclamation marks around a name is a handle. -/
def isNamed (handle : List Char) : Bool := 1 < handle.length && handle.getLast? == some '!'

def text (c : Cursor) : Except Fault (TagName × Cursor) := do
  if c.peekAt? 1 == some '<' then
    let (suffix, c) ← uri true (c.advance 2)
    if !c.isAt '>' then throw .tagName
    return (⟨"", suffix⟩, c.advance 1)
  let (handle, c) ← handleText c
  if isNamed handle then
    let (suffix, c) ← uri false c
    return (⟨String.ofList handle, suffix⟩, c)
  let (more, c) ← chars false (c.rest.length + 1) c
  match upToNull (handle.tail ++ more) with
  | [] => return (⟨"", unspecific⟩, c)
  | suffix => return (⟨"!", String.ofList suffix⟩, c)

/-- Read a tag. It ends with the word; in a flow collection a comma ends it as well. -/
def read (flow : Bool) (c : Cursor) : Except Fault (TagName × Cursor) := do
  let (tag, c) ← text c
  if c.wordEndsAt 0 || (flow && c.isAt ',') then return (tag, c) else throw .tagName

/-! ### What tags stand for -/

/-- The meaning of handles that directives need not define. -/
def ownHandles : List (String × String) := [("!", "!"), ("!!", "tag:yaml.org,2002:")]

/-- The tag that is meant, where `handles` says what directives define. -/
def expand? (handles : List (String × String)) (tag : TagName) : Option String :=
  if tag.handle.isEmpty then some tag.suffix
  else ((handles ++ ownHandles).lookup tag.handle).map (· ++ tag.suffix)

end TagName

namespace Directive

def versionNumber (c : Cursor) : Except Fault (Nat × Cursor) :=
  let (digits, c) := c.span Char.isDigit
  if digits.isEmpty || 9 < digits.length then .error .directive
  else .ok (Text.digitsValue digits, c)

/-- Read the version after its directive's name. -/
def versionText (c : Cursor) : Except Fault (Directive × Cursor) := do
  let (major, c) ← versionNumber (c.skip isSpace)
  if !c.isAt '.' then throw .directive
  let (minor, c) ← versionNumber (c.advance 1)
  return (version major minor, c)

/-- Read the handle and its meaning after the name of the directive that defines it. -/
def tagText (c : Cursor) : Except Fault (Directive × Cursor) := do
  let (handle, c) ← TagName.handleText (c.skip isSpace)
  if handle ≠ ['!'] && !TagName.isNamed handle then throw .directive
  if !c.atSpace then throw .directive
  let (expansion, c) ← TagName.uri true (c.skip isSpace)
  if !c.wordEndsAt 0 then throw .directive
  return (tag (String.ofList handle) expansion, c)

/-- Read a directive and the rest of its line. -/
def read (c : Cursor) : Except Fault (Directive × Cursor) := do
  let (name, c) := (c.advance 1).span isNameChar
  if !c.wordEndsAt 0 then throw .directive
  let (directive, c) ←
    if name = "YAML".toList then versionText c
    else if name = "TAG".toList then tagText c
    else throw .directive
  let c := c.skip isSpace
  let c := if c.isAt '#' then c.skipLine else c
  if c.atLineEnd then return (directive, c.readBreak.2) else throw .directive

def versions : List (Nat × Nat) := [(1, 1), (1, 2)]

/-- The meanings of handles that a list of directives defines. It has at most one version, which is
a known one, and defines no handle twice. -/
def handles? (directives : List Directive) : Option (List (String × String)) :=
  let asked := directives.filterMap fun
    | version major minor => some (major, minor)
    | tag _ _ => none
  let defined := directives.filterMap fun
    | version _ _ => none
    | tag handle expansion => some (handle, expansion)
  if asked.length ≤ 1 && asked.all versions.contains && (defined.map (·.1)).Nodup then some defined
  else none

end Directive

end ClusterGate.Yaml
