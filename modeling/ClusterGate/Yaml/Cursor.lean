/-!
# Reading position in a document

A cursor is what is still to be read of a document and where that stands: how many characters into
the document, in which line, and in which column, all counted from zero.
-/

namespace ClusterGate.Yaml

/-! ### Character classes -/

def isBreak (c : Char) : Bool :=
  c = '\r' || c = '\n' || c = '\u0085' || c = '\u2028' || c = '\u2029'

/-- The character separates words within a line. -/
def isSpace (c : Char) : Bool := c = ' ' || c = '\t'

def isNameChar (c : Char) : Bool := c.isAlphanum || c = '_' || c = '-'

def isPrintable (c : Char) : Bool :=
  c = '\t' || c = '\n' || c = '\r' || (0x20 ≤ c.toNat && c.toNat ≤ 0x7E) || c = '\u0085' ||
    (0xA0 ≤ c.toNat && c.toNat ≤ 0xFFFD) || 0x10000 ≤ c.toNat

/-! ### Cursors -/

structure Cursor where
  rest : List Char
  index : Nat
  line : Nat
  column : Nat
  deriving DecidableEq, Repr

namespace Cursor

def start (text : List Char) : Cursor := ⟨text, 0, 0, 0⟩

def peek? (c : Cursor) : Option Char := c.rest.head?

/-- The character `n` places after the next one. -/
def peekAt? (c : Cursor) (n : Nat) : Option Char := c.rest[n]?

def startsWith (c : Cursor) (p : Char → Bool) : Bool := c.peek?.any p

def isAt (c : Cursor) (ch : Char) : Bool := c.peek? == some ch

def atEnd (c : Cursor) : Bool := c.rest.isEmpty

def atBreak (c : Cursor) : Bool := c.startsWith isBreak

def atSpace (c : Cursor) : Bool := c.startsWith isSpace

def atLineEnd (c : Cursor) : Bool := c.peek?.all isBreak

/-- The character `n` places after the next one is no part of a word. -/
def wordEndsAt (c : Cursor) (n : Nat) : Bool := (c.peekAt? n).all fun ch => isSpace ch || isBreak ch

def advance (c : Cursor) (n : Nat) : Cursor :=
  { c with rest := c.rest.drop n, index := c.index + n, column := c.column + n }

/-- Move over the longest run of characters that satisfy a test, and return the run. The test fails
for line breaks. -/
def span (c : Cursor) (p : Char → Bool) : List Char × Cursor :=
  let run := c.rest.takeWhile p
  (run, c.advance run.length)

/-- Move over the longest run of characters that satisfy a test. -/
def skip (c : Cursor) (p : Char → Bool) : Cursor := (c.span p).2

def skipLine (c : Cursor) : Cursor := c.skip fun ch => !isBreak ch

/-- Move to the next line over `n` characters, which are one line break. -/
def nextLine (c : Cursor) (n : Nat) : Cursor :=
  { rest := c.rest.drop n, index := c.index + n, line := c.line + 1, column := 0 }

/-- Move over one line break and return what it counts for in a text: a line feed, except that the
two Unicode separators count for themselves. -/
def readBreak (c : Cursor) : List Char × Cursor :=
  match c.rest with
  | '\r' :: '\n' :: _ => (['\n'], c.nextLine 2)
  | ch :: _ =>
    if ch = '\u2028' || ch = '\u2029' then ([ch], c.nextLine 1)
    else if isBreak ch then (['\n'], c.nextLine 1)
    else ([], c)
  | [] => ([], c)

/-- A line that starts a document (`---`) or ends one (`...`). -/
def atMarker (c : Cursor) (ch : Char) : Bool :=
  c.column = 0 && c.rest.take 3 == [ch, ch, ch] && c.wordEndsAt 3

def atAnyMarker (c : Cursor) : Bool := c.atMarker '-' || c.atMarker '.'

end Cursor

end ClusterGate.Yaml
