/-!
# How deep patterns are nested

A pattern is made of parts, and parts of parts. Only its depth is kept of it: how many parts stand
inside of one another.
-/

namespace ClusterGate.Pattern

/-- The depth of parts in a row or to choose from. One part alone is not inside of another. -/
def together : List Nat → Nat
  | [] => 0
  | [d] => d
  | ds => ds.foldl max 0 + 1

def depthBound : Nat := 250

end ClusterGate.Pattern
