import ClusterGate.Text.Split

/-!
# Punycode

The labels of the names of hosts are ASCII. A label with other characters is written as its ASCII
characters, a hyphen, and a row of numbers that say which characters to put in at which places. A
number is written with the letters and digits as digits of base 36, the least first, and ends with
the first digit below a threshold. The thresholds follow the size of the numbers before.
-/

namespace ClusterGate.Url.Punycode

def digit? (c : Char) : Option Nat :=
  if 'a' ≤ c && c ≤ 'z' then some (c.toNat - 'a'.toNat)
  else if c.isDigit then some (c.toNat - '0'.toNat + 26)
  else none

/-- The threshold of the digit that stands at a place, given as a multiple of 36. -/
def threshold (place bias : Nat) : Nat := min 26 (max 1 (place - bias))

/-- Divide a number by 35 until it is small, and count 36 for each time. -/
def scaled (delta count : Nat) : Nat × Nat :=
  if 455 < delta then scaled (delta / 35) (count + 36) else (delta, count)
termination_by delta
decreasing_by exact Nat.div_lt_self (by omega) (by omega)

/-- The bias after a number. The first number is damped more. -/
def adapted (delta count : Nat) (first : Bool) : Nat :=
  let delta := if first then delta / 700 else delta / 2
  let (small, bias) := scaled (delta + delta / count) 0
  bias + 36 * small / (small + 38)

/-- How far a label is read. -/
structure Progress where
  out : List Char
  /-- The code point that the last character was put in with. -/
  code : Nat
  /-- The place after it, and where the number that is read begins to count from. -/
  start : Nat
  /-- The number, as far as it is read. -/
  number : Nat
  /-- The weight and the place of the next digit. -/
  weight : Nat
  place : Nat
  bias : Nat

/-- Nothing is read but the ASCII characters. -/
def Progress.initial (basic : List Char) : Progress := ⟨basic, 128, 0, 0, 1, 36, 72⟩

/-- Put in the character that a number stands for. Its quotient by the number of places is the step
to the next code point, the rest is the place. -/
def Progress.insert? (p : Progress) : Option Progress :=
  let count := p.out.length + 1
  let code := p.code + p.number / count
  let position := p.number % count
  if code.isValidChar then
    some ⟨p.out.insertIdx position (Char.ofNat code), code, position + 1, position + 1, 1, 36,
      adapted (p.number - p.start) count (p.start = 0)⟩
  else none

def Progress.step? (p : Progress) (c : Char) : Option Progress := do
  let d ← digit? c
  let t := threshold p.place p.bias
  let q := { p with number := p.number + d * p.weight }
  if d < t then q.insert?
  else return { q with weight := p.weight * (36 - t), place := p.place + 36 }

/-- The ASCII characters of a label and the digits after them. -/
def parts (label : List Char) : List Char × List Char :=
  match Text.cutAtLast? '-' label with
  | some (c :: basic, digits) => (c :: basic, digits)
  | _ => ([], label)

/-- Read a label. Its last number has to be complete. -/
def decode? (label : List Char) : Option (List Char) := do
  let (basic, digits) := parts label
  let p ← digits.foldlM Progress.step? (.initial basic)
  if p.weight = 1 then return p.out else none

end ClusterGate.Url.Punycode
