import ClusterGate.Text.Decimal
import ClusterGate.Text.Split
import ClusterGate.Text.Utf8

/-!
# Percent encoding

In the parts of a URL a byte may be written as a percent sign and two hexadecimal digits. A percent
sign that no two digits follow stands for itself.
-/

namespace ClusterGate.Url

/-- The bytes that a part of a URL stands for. -/
def bytes : List Char → List UInt8
  | [] => []
  | '%' :: a :: b :: r =>
    match Text.hexValue? a, Text.hexValue? b with
    | some x, some y => UInt8.ofNat (16 * x + y) :: bytes r
    | _, _ => Text.utf8 '%' ++ bytes (a :: b :: r)
  | c :: r => Text.utf8 c ++ bytes r

/-- The text that a part of a URL stands for. Its bytes have to be the encoding of one. -/
def decode? (part : List Char) : Option String := Text.ofUtf8? (bytes part)

/-- The text that a name or a value of a query stands for. A plus sign stands for a space. -/
def queryText (part : List Char) : String :=
  Text.ofUtf8 (bytes (part.map fun c => if c = '+' then ' ' else c))

def queryPairs (query : List Char) : List (String × String) :=
  ((Text.pieces '&' query).filter fun p => !p.isEmpty).map fun p =>
    match Text.cut? '=' p with
    | some (name, value) => (queryText name, queryText value)
    | none => (queryText p, "")

end ClusterGate.Url
