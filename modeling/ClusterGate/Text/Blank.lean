import ClusterGate.Text.Ranges

/-!
# Blank characters and trimming

`isBlank` is the Unicode property `White_Space`. `trim` removes the blank characters at both ends of
a text and nothing inside it.
-/

namespace ClusterGate.Text

/-- The ranges of code points with the property `White_Space`. -/
def blankRanges : List (Nat × Nat) :=
  [(0x09, 0x0D), (0x20, 0x20), (0x85, 0x85), (0xA0, 0xA0), (0x1680, 0x1680), (0x2000, 0x200A),
    (0x2028, 0x2029), (0x202F, 0x202F), (0x205F, 0x205F), (0x3000, 0x3000)]

/-- The character has the property `White_Space`. -/
def isBlank (c : Char) : Bool := within blankRanges c.toNat

def skipBlank (cs : List Char) : List Char := cs.dropWhile isBlank

def dropTrailingBlank (cs : List Char) : List Char := (skipBlank cs.reverse).reverse

def trim (cs : List Char) : List Char := dropTrailingBlank (skipBlank cs)

def allBlank (cs : List Char) : Bool := cs.all isBlank

theorem skipBlank_eq_nil {cs : List Char} : skipBlank cs = [] ↔ allBlank cs := by
  induction cs with
  | nil => simp [skipBlank, allBlank]
  | cons c r ih =>
    by_cases h : isBlank c
    · rw [skipBlank, List.dropWhile_cons, if_pos h, allBlank, List.all_cons, h, Bool.true_and]
      exact ih
    · simp [skipBlank, allBlank, h]

/-! ### On strings -/

def trimmed (s : String) : String := String.ofList (trim s.toList)

/-- `trimmed`, or nothing when only blank characters were there. -/
def nonBlank? (s : String) : Option String :=
  if allBlank s.toList then none else some (trimmed s)

end ClusterGate.Text
