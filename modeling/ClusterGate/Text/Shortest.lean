/-!
# The shortest decimal that reads back

A binary floating-point number stands for every real number that rounds to it. `shortest` finds the
decimal with the fewest digits among these, and of several the one nearest to the number. Widths are
a parameter: `single` and `double` are the two in use.
-/

namespace ClusterGate.Text

/-- The layout of a binary floating-point number, with the sign in the highest bit. -/
structure BinaryFormat where
  fractionBits : Nat
  exponentBits : Nat
  deriving DecidableEq, Repr

def single : BinaryFormat := ⟨23, 8⟩

def double : BinaryFormat := ⟨52, 11⟩

/-- A floating-point number. A finite one is `mantissa * 2 ^ exponent`; it is `narrow` when the next
smaller number is only half as far away as the next larger one. -/
inductive Binary
  | nan
  | infinite (negative : Bool)
  | finite (negative : Bool) (mantissa : Nat) (exponent : Int) (narrow : Bool)
  deriving DecidableEq, Repr

def BinaryFormat.ofBits (f : BinaryFormat) (bits : Nat) : Binary :=
  let hidden := Nat.pow 2 f.fractionBits
  let top := Nat.pow 2 f.exponentBits
  let fraction := bits % hidden
  let biased := bits / hidden % top
  let negative := bits / hidden / top % 2 = 1
  let least : Int := 2 - Nat.pow 2 (f.exponentBits - 1) - f.fractionBits
  if biased = top - 1 then if fraction = 0 then .infinite negative else .nan
  else if biased = 0 then .finite negative fraction least false
  else .finite negative (hidden + fraction) (least + biased - 1) (fraction = 0 && 1 < biased)

/-- The decimal `digits * 10 ^ exponent`. -/
structure Decimal where
  digits : Nat
  exponent : Int
  deriving DecidableEq, Repr

/-- The fraction `m * 2 ^ q / 10 ^ k` as numerator and denominator. -/
def scaled (m : Nat) (q k : Int) : Nat × Nat :=
  (m * Nat.pow 2 q.toNat * Nat.pow 10 (-k).toNat, Nat.pow 2 (-q).toNat * Nat.pow 10 k.toNat)

/-- The decimal on the grid of `10 ^ k` that is nearest to `m * 2 ^ q` among those that read back as
it. The real numbers that do reach from `low` to `high` quarters of `2 ^ q`, both ends included when
`m` is even. -/
def onGrid (m low high : Nat) (q k : Int) : Option Decimal :=
  let (num, den) := scaled (4 * m) (q - 2) k
  let (lowNum, _) := scaled low (q - 2) k
  let (highNum, _) := scaled high (q - 2) k
  let below := num / den
  let fits (d : Nat) : Bool :=
    if m % 2 = 0 then lowNum ≤ d * den && d * den ≤ highNum
    else lowNum < d * den && d * den < highNum
  let above := below + 1
  match fits below, fits above with
  | true, true => some ⟨if num - below * den ≤ above * den - num then below else above, k⟩
  | true, false => some ⟨below, k⟩
  | false, true => some ⟨above, k⟩
  | false, false => none

/-- The first grid from `10 ^ k` downwards that holds a decimal which reads back. -/
def descend (m low high : Nat) (q : Int) : (fuel : Nat) → (k : Int) → Decimal
  | 0, k => ⟨0, k⟩
  | fuel + 1, k => (onGrid m low high q k).getD (descend m low high q fuel (k - 1))

/-- The shortest decimal that reads back as `m * 2 ^ q`. -/
def shortest (m : Nat) (q : Int) (narrow : Bool) : Decimal :=
  if m = 0 then ⟨0, 0⟩
  else
    let places : Int := (m.log2 + 1 + q) * 30103 / 100000 + 1
    descend m (4 * m - (if narrow then 1 else 2)) (4 * m + 2) q 40 places

def zeros (n : Nat) : String := String.ofList (List.replicate n '0')

/-- A decimal without exponent. A whole number has no point. -/
def Decimal.positional (d : Decimal) : String :=
  let digits := toString d.digits
  if 0 ≤ d.exponent then if d.digits = 0 then "0" else digits ++ zeros d.exponent.toNat
  else
    let places := (-d.exponent).toNat
    let padded := zeros (places + 1 - digits.length) ++ digits
    String.ofList (padded.toList.take (padded.length - places)) ++ "." ++
      String.ofList (padded.toList.drop (padded.length - places))

/-- A number in its shortest form without exponent. -/
def Binary.positional : Binary → String
  | nan => "NaN"
  | infinite negative => if negative then "-inf" else "inf"
  | finite negative m q narrow => (if negative then "-" else "") ++ (shortest m q narrow).positional

end ClusterGate.Text
