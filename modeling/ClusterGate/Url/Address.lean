import ClusterGate.Text.Decimal
import ClusterGate.Text.Split

/-!
# Addresses of hosts

A host can be given by its address: four numbers with points between them, or eight groups of
hexadecimal digits with colons between them. The schemes of the web are lax about the numbers: they
may be hexadecimal or octal, and the last one may stand for several.
-/

namespace ClusterGate.Url

/-! ### Four numbers -/

/-- A number of an address: no leading zeros and below 256. -/
def isByte (digits : List Char) : Bool :=
  !digits.isEmpty && digits.length ≤ 3 && digits.all Char.isDigit &&
    (digits = ['0'] || digits.head? != some '0') &&
    Text.digitsValue digits < 256

/-- An address of four numbers. -/
def isV4 (cs : List Char) : Bool :=
  let numbers := Text.pieces '.' cs
  numbers.length = 4 && numbers.all isByte

/-! ### Eight groups -/

/-- A group of an address of eight groups. -/
def isGroup (cs : List Char) : Bool :=
  !cs.isEmpty && cs.length ≤ 4 && cs.all (Text.hexValue? · |>.isSome)

/-- How many groups some groups count for. The last may be an address of four numbers, if `mixed`.
-/
def groups? (mixed : Bool) (cs : List Char) : Option Nat :=
  if cs.isEmpty then some 0
  else
    let parts := Text.pieces ':' cs
    if parts.all isGroup then some parts.length
    else if mixed && parts.dropLast.all isGroup && parts.getLast?.any isV4 then
      some (parts.length + 1)
    else none

/-- The text before the first two colons in a row and the text after them. -/
def cutAtGap? : List Char → Option (List Char × List Char)
  | ':' :: ':' :: r => some ([], r)
  | c :: r => (cutAtGap? r).map fun p => (c :: p.1, p.2)
  | [] => none

/-- An address of eight groups, where two colons in a row stand for groups of zeros. -/
def isV6 (cs : List Char) : Bool :=
  match cutAtGap? cs with
  | none => groups? true cs == some 8
  | some (before, after) =>
    match groups? false before, groups? true after with
    | some m, some n => m + n < 8
    | _, _ => false

/-! ### Numbers of any notation -/

def numberIn? (base : Nat) (digits : List Char) : Option Nat :=
  digits.foldlM (fun n c => do
    let d ← Text.hexValue? c
    if d < base then some (base * n + d) else none) 0

/-- Read a number: hexadecimal after `0x`, octal after another zero, else decimal. -/
def number? : List Char → Option Nat
  | [] => none
  | '0' :: 'x' :: r | '0' :: 'X' :: r => numberIn? 16 r
  | '0' :: c :: r => numberIn? 8 (c :: r)
  | cs => numberIn? 10 cs

/-- The labels of a name, without the empty one after a point at the end. -/
def labels (host : List Char) : List (List Char) :=
  match (Text.pieces '.' host).reverse with
  | [] :: l :: r => (l :: r).reverse
  | ls => ls.reverse

/-- The host has to be an address, because its last label is a number. -/
def endsInNumber (host : List Char) : Bool :=
  match (labels host).getLast? with
  | some l => (!l.isEmpty && l.all Char.isDigit) || (number? l).isSome
  | none => false

/-- An address of one to four numbers. The last one stands for all bytes that the others leave. -/
def isLaxV4 (host : List Char) : Bool :=
  match (labels host).mapM number? with
  | none => false
  | some numbers =>
    numbers.length ≤ 4 && numbers.dropLast.all (· < 256) &&
      numbers.getLast?.all (· < Nat.pow 256 (5 - numbers.length))

end ClusterGate.Url
