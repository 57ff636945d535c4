import ClusterGate.Json
import ClusterGate.Text.Decimal
import ClusterGate.Text.Shortest

/-!
# Numbers in JSON texts

A number without fraction and exponent is kept as a whole number where 64 bits hold it. Every other
number is a floating-point number. It is found from the digits that 64 bits hold and a power of ten,
by one multiplication or division, and written in its shortest form.
-/

namespace ClusterGate.Json

/-- A number as it stands in a text. -/
structure Numeral where
  negative : Bool
  whole : List Char
  fraction : List Char
  exponent : Int
  /-- A fraction or an exponent is written. -/
  isReal : Bool
  deriving DecidableEq, Repr

/-- Whole numbers that are kept lie below this number. -/
def wholeBound : Nat := Nat.pow 2 64

/-- The digits up to the one that 64 bits hold no more, and how many are left. -/
def significand : (value : Nat) → List Char → Nat × Nat
  | value, [] => (value, 0)
  | value, c :: r =>
    let next := 10 * value + Text.digitsValue [c]
    if next < wholeBound then significand next r else (value, r.length + 1)

/-- The largest power of ten that a division is made by at once. -/
def powerBound : Nat := 308

/-- Multiply by a power of ten, or divide by one. A number that is too large is none. -/
def scale? : (fuel : Nat) → Float → Int → Option Float
  | 0, _, _ => none
  | fuel + 1, f, e =>
    if e.natAbs ≤ powerBound then
      let power := Float.ofScientific 1 false e.natAbs
      let g := if 0 ≤ e then f * power else f / power
      if g.isInf then none else some g
    else if f == 0 then some f
    else if 0 ≤ e then none
    else scale? fuel (f / Float.ofScientific 1 false powerBound) (e + powerBound)

/-- How many digits a floating-point number that is written without an exponent has before its point
at most, and how many zeros after it before the first other digit. -/
def positionalDigits : Nat × Nat := (16, 4)

/-- The text of a finite floating-point number. One that is whole has one place after the point. -/
def realText (negative : Bool) (d : Text.Decimal) : String :=
  let digits := toString d.digits
  let point : Int := digits.length + d.exponent
  let (most, leading) := positionalDigits
  let magnitude :=
    if d.digits = 0 then "0.0"
    else if 0 ≤ d.exponent && point ≤ most then digits ++ Text.zeros d.exponent.toNat ++ ".0"
    else if d.exponent < 0 && -(leading : Int) ≤ point && point ≤ most then d.positional
    else
      let places := if digits.length = 1 then "" else "." ++ String.ofList (digits.toList.drop 1)
      String.ofList (digits.toList.take 1) ++ places ++ "e" ++ toString (point - 1)
  (if negative then "-" else "") ++ magnitude

/-- The value of a numeral, unless it is too large for a floating-point number. -/
def Numeral.value? (n : Numeral) : Option Json :=
  let whole := Text.digitsValue n.whole
  let minus : Int := Nat.pow 2 63
  if !n.isReal && n.negative && 0 < whole && whole ≤ minus then some (.int (-whole))
  else if !n.isReal && !n.negative && whole < wholeBound then some (.int whole)
  else
    let (mantissa, dropped) := significand 0 (n.whole ++ n.fraction)
    let exponent := n.exponent + dropped - n.fraction.length
    (scale? (exponent.natAbs / powerBound + 2) mantissa.toFloat exponent).map fun f =>
      match Text.double.ofBits f.toBits.toNat with
      | .finite _ m q narrow => .real (realText n.negative (Text.shortest m q narrow))
      | _ => .real "null"

end ClusterGate.Json
