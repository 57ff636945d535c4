import ClusterGate.Text.Ranges

/-!
# UTF-8

A character is encoded by one to four bytes. The first says how many there are, and of the second
it says in which range it lies; the others are any bytes from `0x80` to `0xBF`. `repaired` reads
bytes that need not be the encoding of a text.
-/

namespace ClusterGate.Text

def utf8 (c : Char) : List UInt8 := (String.singleton c).toUTF8.toList

def ofUtf8? (bs : List UInt8) : Option String := String.fromUTF8? ⟨bs.toArray⟩

/-- A character of which some bytes have been read. -/
structure Unfinished where
  /-- The digits of the code point that were read. -/
  value : Nat
  /-- The ranges of the bytes that are still to come. -/
  wanted : List (Nat × Nat)

/-- The range of the bytes that go on with a character. -/
def inner : Nat × Nat := (0x80, 0xBF)

/-- Read the first byte of a character. -/
def Unfinished.start? (b : Nat) : Option Unfinished :=
  if b < 0x80 then some ⟨b, []⟩
  else if 0xC2 ≤ b && b ≤ 0xDF then some ⟨b - 0xC0, [inner]⟩
  else if b = 0xE0 then some ⟨b - 0xE0, [(0xA0, 0xBF), inner]⟩
  else if b = 0xED then some ⟨b - 0xE0, [(0x80, 0x9F), inner]⟩
  else if 0xE1 ≤ b && b ≤ 0xEF then some ⟨b - 0xE0, [inner, inner]⟩
  else if b = 0xF0 then some ⟨b - 0xF0, [(0x90, 0xBF), inner, inner]⟩
  else if 0xF1 ≤ b && b ≤ 0xF3 then some ⟨b - 0xF0, [inner, inner, inner]⟩
  else if b = 0xF4 then some ⟨b - 0xF0, [(0x80, 0x8F), inner, inner]⟩
  else none

/-- Read one more byte of a character. -/
def Unfinished.next? (p : Unfinished) (b : Nat) : Option Unfinished :=
  match p.wanted with
  | r :: wanted =>
    if r.1 ≤ b && b ≤ r.2 then some ⟨64 * p.value + (b - 0x80), wanted⟩ else none
  | [] => none

/-- Stands for bytes that encode nothing. -/
def replacement : Char := '\uFFFD'

/-- What is read of a byte: a character that it completes or that it cannot belong to, and the
character that it leaves unfinished. -/
def settled : Option Unfinished → List Char × Option Unfinished
  | none => ([replacement], none)
  | some ⟨value, []⟩ => ([Char.ofNat value], none)
  | some p => ([], some p)

/-- Read bytes after an unfinished character. What was read of a character that does not go on
counts as one character, the replacement. -/
def repaired : Option Unfinished → List UInt8 → List Char
  | none, [] => []
  | some _, [] => [replacement]
  | none, b :: r =>
    let (read, unfinished) := settled (Unfinished.start? b.toNat)
    read ++ repaired unfinished r
  | some p, b :: r =>
    match p.next? b.toNat with
    | some q =>
      let (read, unfinished) := settled (some q)
      read ++ repaired unfinished r
    | none =>
      let (read, unfinished) := settled (Unfinished.start? b.toNat)
      replacement :: read ++ repaired unfinished r

/-- The text of some bytes, where those that encode nothing are replaced. -/
def ofUtf8 (bs : List UInt8) : String := String.ofList (repaired none bs)

end ClusterGate.Text
