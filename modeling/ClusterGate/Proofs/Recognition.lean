import ClusterGate.Command
import ClusterGate.Proofs.Trimming

/-!
# Recognising the control command

The command that a namespace is written into is recognised in the namespace that was read from it,
unless the namespace as written ends in a blank character (`detect_statement`). Blank characters in
front are skipped where the command is read, but none may stand between the namespace and the dot.
-/

namespace ClusterGate

namespace Text

/-- The last character of the text is blank. -/
def endsBlank (s : String) : Bool := s.toList.getLast?.any isBlank

/-- Trimming takes blank characters off both ends, and those at the right end are there when the
text ends in one. -/
theorem exists_trim {cs : List Char} (h : allBlank cs = false) :
    ∃ lead c rest trail, cs = lead ++ (c :: rest) ++ trail ∧ trim cs = c :: rest ∧
      isBlank c = false ∧ (∀ d ∈ lead, isBlank d = true) ∧ (∀ d ∈ trail, isBlank d = true) ∧
      (trail = [] ↔ cs.getLast?.any isBlank = false) := by
  obtain ⟨lead, trail, hlead, htrail, hsplit⟩ := padded_trim cs
  cases hcore : trim cs with
  | nil =>
    rw [trim_eq_nil.mp hcore] at h
    cases h
  | cons c rest =>
    have htight := tight_trim cs
    rw [hcore] at hsplit htight
    rw [hsplit]
    refine ⟨lead, c, rest, trail, (List.append_assoc ..).symm, rfl, htight.1,
      List.all_eq_true.mp hlead, List.all_eq_true.mp htrail, ?_⟩
    have hsolid : c :: rest ++ trail ≠ [] := List.cons_ne_nil _ _
    rw [List.getLast?_append_of_ne_nil _ hsolid]
    by_cases hnil : trail = []
    · rw [hnil, List.append_nil]
      exact iff_of_true rfl htight.2
    · have hlast := List.all_eq_true.mp htrail _ (List.getLast_mem hnil)
      rw [List.getLast?_append_of_ne_nil _ hnil, List.getLast?_eq_some_getLast hnil,
        Option.any_some, hlast]
      simp [hnil]

/-- Blank characters have no case. -/
theorem fold_of_isBlank {c : Char} (h : isBlank c = true) : fold c = c := by
  have hruns : ∀ r ∈ blankRanges, ∀ n ∈ List.range' r.1 (r.2 + 1 - r.1),
      (foldRuns.find? (·.covers n)).isNone = true := by decide +kernel
  obtain ⟨r, hr, hwithin⟩ := List.any_eq_true.mp h
  simp only [Bool.and_eq_true, decide_eq_true_eq] at hwithin
  have hmem : c.toNat ∈ List.range' r.1 (r.2 + 1 - r.1) := by
    rw [List.mem_range'_1]
    omega
  have hnone := Option.isNone_iff_eq_none.mp (hruns r hr c.toNat hmem)
  rw [fold, hnone]

end Text

namespace Command

/-- After the namespace no blank character may come. -/
theorem afterLiteral?_dot_blank (name : List Char) {c : Char} (h : Text.isBlank c = true)
    (rest : List Char) : Text.afterLiteral? ('.' :: name) (c :: rest) = none := by
  have hagree : Text.agree '.' c = false := by
    rw [Text.agree, Text.fold_of_isBlank h]
    refine beq_eq_false_iff_ne.mpr ?_
    rintro rfl
    exact absurd h (by decide)
  rw [Text.afterLiteral?, hagree]
  rfl

/-- The words in front of the namespace are read, and the blank characters after them. -/
theorem recognise_words (space : Namespace) (cs : List Char) :
    recognise space ("SET SESSION ".toList ++ cs) = (do
      let cs ← Text.afterLiteral? space.text.toList (Text.skipBlank cs)
      let cs ← Text.afterLiteral? ".strict_writer".toList cs
      let cs ← afterEquals? (Text.skipBlank cs)
      value? cs) := rfl

/-- What follows the namespace in a command. -/
def setting (enabled : Bool) : List Char :=
  ".strict_writer = '".toList ++ (modeValue enabled).toList ++ "'".toList

/-- The command for a namespace, as it is read. The blank characters around the namespace are those
that stand around it where it was configured. -/
theorem recognise_statement (space : Namespace) {lead trail : List Char} {c : Char}
    {name : List Char} (hspace : space.text.toList = c :: name) (hc : Text.isBlank c = false)
    (hlead : ∀ d ∈ lead, Text.isBlank d = true) (htrail : ∀ d ∈ trail, Text.isBlank d = true)
    (enabled : Bool) :
    recognise space ("SET SESSION ".toList ++ (lead ++ (c :: name) ++ trail ++ setting enabled)) =
      if trail = [] then some enabled else none := by
  have hskip : Text.skipBlank (lead ++ (c :: name) ++ trail ++ setting enabled) =
      (c :: name) ++ (trail ++ setting enabled) := by
    rw [List.append_assoc, List.append_assoc, Text.skipBlank_append hlead]
    exact Text.skipBlank_cons hc _
  have hname : Text.afterLiteral? (c :: name) ((c :: name) ++ (trail ++ setting enabled)) =
      some (trail ++ setting enabled) := Text.afterLiteral?_append rfl _
  rw [recognise_words, hspace, hskip, hname]
  cases trail with
  | nil =>
    rw [if_pos rfl]
    cases enabled <;> decide +kernel
  | cons d rest =>
    have hd : Text.isBlank d = true := htrail d (List.mem_cons_self ..)
    have hdot : Text.afterLiteral? ".strict_writer".toList (d :: (rest ++ setting enabled)) =
        none := afterLiteral?_dot_blank _ hd _
    show (Text.afterLiteral? ".strict_writer".toList (d :: (rest ++ setting enabled))).bind _ = _
    rw [hdot, if_neg (List.cons_ne_nil d rest)]
    rfl

theorem toList_statement (raw value : String) :
    (statement raw value).toList = "SET SESSION ".toList ++
      (raw.toList ++ (".strict_writer = '".toList ++ value.toList ++ "'".toList)) := by
  have hjoin (a b c d e : String) : (a ++ b ++ c ++ d ++ e).toList =
      a.toList ++ (b.toList ++ (c.toList ++ d.toList ++ e.toList)) := by
    simp only [String.toList_append, List.append_assoc]
  exact hjoin "SET SESSION " raw ".strict_writer = '" value "'"

/-- The command that a namespace is written into is recognised exactly if the namespace as written
does not end in a blank character. -/
theorem detect_statement {raw : String} {space : Namespace}
    (hspace : Namespace.ofText raw = .ok space) (enabled : Bool) :
    detect space (statement raw (modeValue enabled)) =
      if Text.endsBlank raw then none else some enabled := by
  -- A namespace is made of a text that is not all blank, by trimming it.
  have hraw : Text.allBlank raw.toList = false ∧ space.text = Text.trimmed raw := by
    rw [Namespace.ofText, Text.nonBlank?] at hspace
    by_cases hblank : Text.allBlank raw.toList = true
    · rw [if_pos hblank] at hspace
      cases hspace
    · rw [if_neg hblank] at hspace
      cases hspace
      exact ⟨Bool.eq_false_iff.mpr hblank, rfl⟩
  obtain ⟨lead, c, name, trail, hsplit, htrim, hc, hlead, htrail, hends⟩ :=
    Text.exists_trim hraw.1
  have hname : space.text.toList = c :: name := by
    rw [hraw.2, Text.trimmed, String.toList_ofList, htrim]
  have hsql : (statement raw (modeValue enabled)).toList =
      "SET SESSION ".toList ++ (lead ++ (c :: name) ++ trail ++ setting enabled) := by
    rw [← hsplit]
    exact toList_statement raw _
  rw [detect, hsql, recognise_statement space hname hc hlead htrail]
  by_cases htail : trail = []
  · have hopen : Text.endsBlank raw = false := hends.mp htail
    rw [if_pos htail, hopen]
    rfl
  · have hblank : Text.endsBlank raw = true := by
      rw [← Bool.not_eq_false]
      exact fun hopen => htail (hends.mpr hopen)
    rw [if_neg htail, hblank]
    rfl

end Command

end ClusterGate
