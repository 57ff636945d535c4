/-!
# Reading whole numbers

A whole number is an optional plus sign and one or more ASCII digits, below a bound. Digits are read
from the left, and the first one that is wrong decides the fault: a character that is no digit, or
the digit that reaches the bound.
-/

namespace ClusterGate.Text

/-- Why a text is not a whole number below the bound. -/
inductive DecimalFault
  | empty
  | invalidDigit
  | tooLarge
  deriving DecidableEq, Repr

def DecimalFault.message : DecimalFault → String
  | .empty => "cannot parse integer from empty string"
  | .invalidDigit => "invalid digit found in string"
  | .tooLarge => "number too large to fit in target type"

def digitValue? (c : Char) : Option Nat :=
  if c.isDigit then some (c.toNat - '0'.toNat) else none

/-- The value of a hexadecimal digit, in either case. -/
def hexValue? (c : Char) : Option Nat :=
  if c.isDigit then some (c.toNat - '0'.toNat)
  else if 'a' ≤ c ∧ c ≤ 'f' then some (c.toNat - 'a'.toNat + 10)
  else if 'A' ≤ c ∧ c ≤ 'F' then some (c.toNat - 'A'.toNat + 10)
  else none

/-- The bytes that pairs of hexadecimal digits stand for. Other characters count as zero. -/
def hexBytes : List Char → List UInt8
  | high :: low :: r =>
    UInt8.ofNat (16 * (hexValue? high).getD 0 + (hexValue? low).getD 0) :: hexBytes r
  | _ => []

/-- The number with the given decimal digits. Other characters count for nothing. -/
def digitsValue (digits : List Char) : Nat :=
  digits.foldl (fun n c => 10 * n + (digitValue? c).getD 0) 0

/-- Read digits from the left onto the value that stands already. -/
def readDigits (bound : Nat) : (value : Nat) → List Char → Except DecimalFault Nat
  | value, [] => .ok value
  | value, c :: r =>
    match digitValue? c with
    | none => .error .invalidDigit
    | some d =>
      if value * 10 + d < bound then readDigits bound (value * 10 + d) r else .error .tooLarge

/-- Read a whole number below `bound`. -/
def readDecimal (bound : Nat) : List Char → Except DecimalFault Nat
  | [] => .error .empty
  | ['+'] => .error .invalidDigit
  | '+' :: r => readDigits bound 0 r
  | c :: r => readDigits bound 0 (c :: r)

end ClusterGate.Text
