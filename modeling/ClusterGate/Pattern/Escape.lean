import ClusterGate.Text.Blank
import ClusterGate.Text.Decimal

/-!
# Escapes in patterns

After a backslash a character has another meaning: a letter may name a character, a set of
characters or a place between two of them, and punctuation loses its meaning.
-/

namespace ClusterGate.Pattern

/-- How a part of a pattern is read. -/
structure Modes where
  /-- Blank characters and comments mean nothing. -/
  spaced : Bool
  /-- Sets hold characters of Unicode, and not bytes. -/
  unicode : Bool
  deriving DecidableEq, Repr

/-- How a pattern is read where it says nothing about it. -/
def Modes.initial : Modes := ⟨false, true⟩

/-- The text after blank characters and comments. A comment goes on to the end of its line. -/
def afterSpace : (inComment : Bool) → List Char → List Char
  | _, [] => []
  | true, c :: r => afterSpace (c ≠ '\n') r
  | false, c :: r =>
    if Text.isBlank c then afterSpace false r
    else if c = '#' then afterSpace true r
    else c :: r

/-- The text from where reading goes on. -/
def Modes.skip (m : Modes) (cs : List Char) : List Char :=
  if m.spaced then afterSpace false cs else cs

/-- What an escape stands for. -/
inductive Escaped
  | character (c : Char)
  | set
  | place
  deriving DecidableEq, Repr

/-- Read hexadecimal digits onto the value that stands already. -/
def hexadecimal? (m : Modes) : (count value : Nat) → List Char → Option (Nat × List Char)
  | 0, value, cs => some (value, cs)
  | _ + 1, _, [] => none
  | count + 1, value, c :: r => do
    let d ← Text.hexValue? c
    hexadecimal? m count (16 * value + d) (m.skip r)

/-- How many hexadecimal digits follow a letter. -/
def hexadecimalCount? : Char → Option Nat
  | 'x' => some 2
  | 'u' => some 4
  | 'U' => some 8
  | _ => none

def namedCharacters : List (Char × Char) :=
  [('a', '\x07'), ('f', '\x0C'), ('t', '\t'), ('n', '\n'), ('r', '\r'), ('v', '\x0B')]

/-- The letters for digits, white space and the characters of words. A capital stands for all other
characters. -/
def setLetters : List Char := ['d', 's', 'w']

/-- The first letters of the general categories, which stand for sets of characters. -/
def categoryLetters : List Char := ['c', 'l', 'm', 'n', 'p', 's', 'z']

/-- The letters for the two ends of a text. -/
def endLetters : List Char := ['A', 'z']

/-- The letters for places at the edges of words. What a word is cannot be told but for bytes. -/
def edgeLetters : List Char := ['b', 'B', '<', '>']

/-- The character loses its meaning, or has none, after a backslash. -/
def isPunctuation (c : Char) : Bool := c.toNat < 0x80 && !c.isAlphanum && c ≠ '<' && c ≠ '>'

/-- Read an escape after its backslash. -/
def escape? (m : Modes) : List Char → Option (Escaped × List Char)
  | [] => none
  | c :: r =>
    match hexadecimalCount? c with
    | some count => do
      let (n, rest) ← hexadecimal? m count 0 (m.skip r)
      if !n.isValidChar || (c = 'x' && 0x80 ≤ n && !m.unicode) then none
      return (.character (Char.ofNat n), rest)
    | none =>
      if c.toLower = 'p' then
        match m.skip r with
        | k :: rest =>
          if m.unicode && categoryLetters.contains k.toLower then some (.set, m.skip rest) else none
        | [] => none
      else if setLetters.contains c.toLower then
        if c.isUpper && !m.unicode then none else some (.set, r)
      else if edgeLetters.contains c then if m.unicode then none else some (.place, r)
      else if endLetters.contains c then some (.place, r)
      else if isPunctuation c then some (.character c, r)
      else (namedCharacters.lookup c).map fun d => (.character d, r)

end ClusterGate.Pattern
