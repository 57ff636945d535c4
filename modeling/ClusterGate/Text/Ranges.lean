/-!
# Ranges of code points

Properties of characters are kept as tables of ranges.
-/

namespace ClusterGate.Text

/-- The code point lies in one of the ranges. Both ends of a range belong to it. -/
def within (ranges : List (Nat × Nat)) (n : Nat) : Bool :=
  ranges.any fun r => r.1 ≤ n && n ≤ r.2

end ClusterGate.Text
