import ClusterGate.Text.Split

/-!
# Availability zones in host names

A segment of a host name that looks like `us-east-1a` is taken for the host's zone. The first such
segment counts.
-/

namespace ClusterGate.Zone

/-- The part of a zone name after its two leading letters: a hyphen, letters, a hyphen, a digit and
a letter. -/
def isZoneTail : List Char → Bool
  | '-' :: r =>
    !(r.takeWhile Char.isLower).isEmpty &&
      match r.dropWhile Char.isLower with
      | ['-', digit, letter] => digit.isDigit && letter.isLower
      | _ => false
  | _ => false

/-- The text is a zone name: two small letters, a hyphen, small letters, a hyphen, a digit and a
small letter, all of them ASCII. -/
def isZoneName : List Char → Bool
  | a :: b :: r => a.isLower && b.isLower && isZoneTail r
  | _ => false

/-- The zone that a host name shows. -/
def ofHostName (host : String) : Option String :=
  ((Text.pieces '.' host.toList).find? isZoneName).map String.ofList

end ClusterGate.Zone
