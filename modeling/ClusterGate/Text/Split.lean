/-!
# Cutting text at a separator

`pieces sep cs` cuts at every `sep`, so that `n` separators leave `n + 1` pieces, empty ones
included. `cut? sep cs` cuts at the first `sep` only, and `cutAtLast? sep cs` at the last.
-/

namespace ClusterGate.Text

/-- The pieces of a text between the occurrences of a separator. -/
def pieces (sep : Char) : List Char → List (List Char)
  | [] => [[]]
  | c :: r =>
    if c = sep then [] :: pieces sep r
    -- There is always a first piece of the rest, and the character belongs to it.
    else match pieces sep r with
      | [] => [[c]]
      | p :: ps => (c :: p) :: ps

/-- The text before the first separator and the text after it, if there is a separator. -/
def cut? (sep : Char) : List Char → Option (List Char × List Char)
  | [] => none
  | c :: r =>
    if c = sep then some ([], r)
    else (cut? sep r).map fun p => (c :: p.1, p.2)

/-- The text before the last separator and the text after it, if there is a separator. -/
def cutAtLast? (sep : Char) (cs : List Char) : Option (List Char × List Char) :=
  (cut? sep cs.reverse).map fun p => (p.2.reverse, p.1.reverse)

/-- The text up to the first separator, or the whole text. -/
def upTo (sep : Char) (cs : List Char) : List Char := cs.takeWhile (· ≠ sep)

/-- `pat` stands somewhere inside the text. -/
def contains (pat : List Char) : List Char → Bool
  | [] => pat.isEmpty
  | c :: r => pat.isPrefixOf (c :: r) || contains pat r

theorem pieces_ne_nil (sep : Char) (cs : List Char) : pieces sep cs ≠ [] := by
  induction cs with
  | nil => simp [pieces]
  | cons c r ih =>
    rw [pieces]
    split
    · simp
    · split <;> simp

theorem pieces_of_not_mem {sep : Char} {cs : List Char} (h : sep ∉ cs) :
    pieces sep cs = [cs] := by
  induction cs with
  | nil => rfl
  | cons c r ih =>
    simp only [List.mem_cons, not_or] at h
    rw [pieces, if_neg (Ne.symm h.1), ih h.2]

/-- A piece that ends at a separator stands alone before the pieces of the rest. -/
theorem pieces_append_sep {sep : Char} {a : List Char} (h : sep ∉ a) (b : List Char) :
    pieces sep (a ++ sep :: b) = a :: pieces sep b := by
  induction a with
  | nil => simp [pieces]
  | cons c r ih =>
    simp only [List.mem_cons, not_or] at h
    rw [List.cons_append, pieces, if_neg (Ne.symm h.1), ih h.2]

theorem not_mem_of_mem_pieces {sep : Char} {cs p : List Char} (h : p ∈ pieces sep cs) :
    sep ∉ p := by
  induction cs generalizing p with
  | nil => simp [pieces] at h; simp [h]
  | cons c r ih =>
    rw [pieces] at h
    split at h
    · rcases List.mem_cons.mp h with rfl | h
      · simp
      · exact ih h
    · rename_i hc
      split at h
      · rename_i he; exact absurd he (pieces_ne_nil sep r)
      · rename_i q qs he
        rcases List.mem_cons.mp h with rfl | h
        · have := ih (p := q) (by simp [he])
          simp [this, Ne.symm hc]
        · exact ih (by simp [he, h])

theorem cut?_eq_some {sep : Char} {cs a b : List Char} (h : cut? sep cs = some (a, b)) :
    cs = a ++ sep :: b ∧ sep ∉ a := by
  induction cs generalizing a with
  | nil => simp [cut?] at h
  | cons c r ih =>
    rw [cut?] at h
    split at h
    · rename_i hc
      cases h
      simp [hc]
    · rename_i hc
      obtain ⟨⟨x, y⟩, hxy, h⟩ := Option.map_eq_some_iff.1 h
      cases h
      obtain ⟨rfl, hx⟩ := ih hxy
      simp [hx, Ne.symm hc]

theorem cut?_append {sep : Char} {a : List Char} (h : sep ∉ a) (b : List Char) :
    cut? sep (a ++ sep :: b) = some (a, b) := by
  induction a with
  | nil => simp [cut?]
  | cons c r ih =>
    simp only [List.mem_cons, not_or] at h
    rw [List.cons_append, cut?, if_neg (Ne.symm h.1), ih h.2]
    rfl

end ClusterGate.Text
