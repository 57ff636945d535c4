import ClusterGate.Text.Blank
import ClusterGate.Text.Split
import Mathlib.Data.List.DropRight

/-!
# Trimmed and separated text

Formats of one line are read by cutting a text at a separator and trimming what is cut out. This
module says what the two do without saying how: a text is trimmed to the one text without blank
characters at its ends that it is a padding of (`trim_eq_iff`), and it is cut into the one list of
items without the separator that it is joined from (`cut_iff`).
-/

namespace ClusterGate.Text

/-! ## Blank characters -/

theorem allBlank_append (l r : List Char) : allBlank (l ++ r) = (allBlank l && allBlank r) :=
  List.all_append

/-- Between the space and the end of ASCII no character is blank. -/
theorem isBlank_of_between {c : Char} (hlow : 0x20 < c.toNat) (hhigh : c.toNat < 0x80) :
    isBlank c = false := by
  refine List.any_eq_false.mpr fun range hrange => ?_
  have haway : range.2 ≤ 0x20 ∨ 0x80 ≤ range.1 := by
    revert range
    decide
  simp only [Bool.and_eq_true, decide_eq_true_eq]
  omega

theorem skipBlank_append {lead : List Char} (h : ∀ c ∈ lead, isBlank c = true)
    (rest : List Char) : skipBlank (lead ++ rest) = skipBlank rest := by
  induction lead with
  | nil => rfl
  | cons c cs ih =>
    have hc : isBlank c = true := h c (List.mem_cons_self ..)
    rw [List.cons_append, skipBlank, List.dropWhile_cons, if_pos hc]
    exact ih fun d hd => h d (List.mem_cons_of_mem _ hd)

theorem skipBlank_cons {c : Char} (h : isBlank c = false) (rest : List Char) :
    skipBlank (c :: rest) = c :: rest := by
  rw [skipBlank, List.dropWhile_cons, h]
  rfl

/-! ## Padding -/

/-- No blank character stands at either end of the text. -/
def Tight (cs : List Char) : Prop :=
  cs.head?.any isBlank = false ∧ cs.getLast?.any isBlank = false

instance (cs : List Char) : Decidable (Tight cs) := inferInstanceAs (Decidable (_ ∧ _))

/-- The text is `core` with blank characters around it. -/
def Padded (core cs : List Char) : Prop :=
  ∃ lead trail, allBlank lead = true ∧ allBlank trail = true ∧ cs = lead ++ (core ++ trail)

theorem padded_self (cs : List Char) : Padded cs cs :=
  ⟨[], [], rfl, rfl, (List.append_nil cs).symm⟩

theorem Tight.reverse {cs : List Char} (h : Tight cs) : Tight cs.reverse := by
  rw [Tight, List.head?_reverse, List.getLast?_reverse]
  exact h.symm

theorem Tight.skipBlank {cs : List Char} (h : Tight cs) : skipBlank cs = cs := by
  cases cs with
  | nil => rfl
  | cons c r => exact skipBlank_cons h.1 r

theorem tight_of_forall {cs : List Char} (h : ∀ c ∈ cs, isBlank c = false) : Tight cs := by
  constructor
  · cases hhead : cs.head? with
    | none => rfl
    | some c => exact h c (List.mem_of_head? hhead)
  · cases hlast : cs.getLast? with
    | none => rfl
    | some c => exact h c (List.mem_of_getLast? hlast)

/-- Trimming takes nothing but blank characters away. -/
theorem padded_trim (cs : List Char) : Padded (trim cs) cs := by
  have hsplit : cs.takeWhile isBlank ++ cs.dropWhile isBlank = cs :=
    List.takeWhile_append_dropWhile
  have hcore : trim cs ++ (cs.dropWhile isBlank).rtakeWhile isBlank = cs.dropWhile isBlank :=
    List.rdropWhile_append_rtakeWhile ..
  refine ⟨_, _, List.all_takeWhile, ?_, by rw [hcore, hsplit]⟩
  exact List.all_eq_true.mpr fun c hc => List.mem_rtakeWhile_imp hc

/-- Trimming leaves no blank character at either end. -/
theorem tight_trim (cs : List Char) : Tight (trim cs) := by
  constructor
  · -- The first character is the one where leading blank characters end.
    have hprefix : trim cs <+: cs.dropWhile isBlank := List.rdropWhile_prefix isBlank ..
    cases hcore : trim cs with
    | nil => rfl
    | cons c r =>
      obtain ⟨rest, hinner⟩ := hprefix
      rw [hcore, List.cons_append] at hinner
      have hhead := List.head?_dropWhile_not isBlank cs
      rw [← hinner] at hhead
      exact hhead
  · cases hlast : (trim cs).getLast? with
    | none => rfl
    | some c =>
      have hne : trim cs ≠ [] := fun hnil => by rw [hnil] at hlast; cases hlast
      have hopen := List.rdropWhile_last_not isBlank (cs.dropWhile isBlank) hne
      rw [List.getLast?_eq_some_getLast hne] at hlast
      cases hlast
      exact Bool.eq_false_iff.mpr hopen

/-- A text is trimmed to the one tight text that it is a padding of. -/
theorem trim_eq_iff {cs core : List Char} : trim cs = core ↔ Tight core ∧ Padded core cs := by
  constructor
  · rintro rfl
    exact ⟨tight_trim cs, padded_trim cs⟩
  · rintro ⟨hcore, lead, trail, hlead, htrail, rfl⟩
    rw [trim, skipBlank_append (List.all_eq_true.mp hlead)]
    cases core with
    | nil =>
      rw [List.nil_append, skipBlank_eq_nil.mpr htrail]
      rfl
    | cons c r =>
      have htrail' : ∀ d ∈ trail.reverse, isBlank d = true := fun d hd =>
        List.all_eq_true.mp htrail d (List.mem_reverse.mp hd)
      rw [List.cons_append, skipBlank_cons hcore.1, ← List.cons_append, dropTrailingBlank,
        List.reverse_append, skipBlank_append htrail', hcore.reverse.skipBlank,
        List.reverse_reverse]

/-- A text is trimmed to what is left in it when the blank characters around are taken away. -/
theorem Padded.trim {cs core : List Char} (h : Padded core cs) (hcore : Tight core) :
    trim cs = core :=
  trim_eq_iff.mpr ⟨hcore, h⟩

/-- Trimming leaves nothing of a text exactly if it is all blank. -/
theorem trim_eq_nil {cs : List Char} : trim cs = [] ↔ allBlank cs = true := by
  rw [trim_eq_iff]
  constructor
  · rintro ⟨-, lead, trail, hlead, htrail, rfl⟩
    rw [List.nil_append, allBlank_append, hlead, htrail]
    rfl
  · exact fun h => ⟨⟨rfl, rfl⟩, cs, [], h, rfl, (List.append_nil cs).symm⟩

theorem Padded.trans {core inner cs : List Char} (h : Padded core inner) (h' : Padded inner cs) :
    Padded core cs := by
  obtain ⟨lead, trail, hlead, htrail, rfl⟩ := h
  obtain ⟨lead', trail', hlead', htrail', rfl⟩ := h'
  refine ⟨lead' ++ lead, trail ++ trail', ?_, ?_, by simp only [List.append_assoc]⟩
  · rw [allBlank_append, hlead', hlead]
    rfl
  · rw [allBlank_append, htrail, htrail']
    rfl

/-- Blank characters around a text make no difference once it is trimmed. -/
theorem Padded.trim_congr {core cs : List Char} (h : Padded core cs) :
    Text.trim cs = Text.trim core :=
  trim_eq_iff.mpr ⟨tight_trim core, (padded_trim core).trans h⟩

theorem allBlank_trim (cs : List Char) : allBlank (trim cs) = allBlank cs := by
  rw [Bool.eq_iff_iff, ← trim_eq_nil, ← trim_eq_nil, (padded_self (trim cs)).trim (tight_trim cs)]

theorem padded_of_lead {lead : List Char} (h : allBlank lead = true) (cs : List Char) :
    Padded cs (lead ++ cs) :=
  ⟨lead, [], h, rfl, by rw [List.append_nil]⟩

theorem padded_of_trail {trail : List Char} (h : allBlank trail = true) (cs : List Char) :
    Padded cs (cs ++ trail) :=
  ⟨[], trail, rfl, h, rfl⟩

theorem not_mem_of_allBlank {cs : List Char} (h : allBlank cs = true) {c : Char}
    (hc : isBlank c = false) : c ∉ cs := by
  intro hmem
  rw [List.all_eq_true.mp h c hmem] at hc
  cases hc

/-- Padding brings in blank characters only. -/
theorem Padded.mem_iff {cs core : List Char} (h : Padded core cs) {c : Char}
    (hc : isBlank c = false) : c ∈ cs ↔ c ∈ core := by
  obtain ⟨lead, trail, hlead, htrail, rfl⟩ := h
  rw [List.mem_append, List.mem_append, or_iff_right (not_mem_of_allBlank hlead hc),
    or_iff_left (not_mem_of_allBlank htrail hc)]

/-! ## Fields -/

/-- The text can stand as a field between separators and come out of trimming as it is. -/
structure Field (separators : List Char) (s : String) : Prop where
  nonempty : s.toList ≠ []
  tight : Tight s.toList
  clean : ∀ sep ∈ separators, sep ∉ s.toList

instance (separators : List Char) (s : String) : Decidable (Field separators s) :=
  decidable_of_iff
    (s.toList ≠ [] ∧ Tight s.toList ∧ separators.all (fun sep => sep ∉ s.toList) = true) <| by
    rw [List.all_eq_true]
    simp only [decide_eq_true_eq]
    exact ⟨fun ⟨hne, htight, hclean⟩ => ⟨hne, htight, hclean⟩,
      fun h => ⟨h.nonempty, h.tight, h.clean⟩⟩

theorem Field.mono {separators separators' : List Char} {s : String} (h : Field separators s)
    (hsub : separators' ⊆ separators) : Field separators' s :=
  ⟨h.nonempty, h.tight, fun sep hsep => h.clean sep (hsub hsep)⟩

/-! ## Items between separators -/

/-- The text is cut into the items at every separator. -/
structure Cut (sep : Char) (cs : List Char) (items : List (List Char)) : Prop where
  joined : [sep].intercalate items = cs
  clean : ∀ item ∈ items, sep ∉ item
  nonempty : items ≠ []

section
variable {sep : Char}

theorem pieces_eq_splitOn (cs : List Char) : pieces sep cs = cs.splitOn sep := by
  induction cs with
  | nil => rfl
  | cons c r ih =>
    rw [pieces, ih, List.splitOn, List.splitOn, List.splitOnP_cons_eq_if_modifyHead]
    obtain ⟨first, rest, hpieces⟩ := List.exists_cons_of_ne_nil (pieces_ne_nil sep r)
    rw [ih, List.splitOn] at hpieces
    rw [hpieces]
    simp

/-- There is one way to cut a text. -/
theorem cut_iff {cs : List Char} {items : List (List Char)} :
    Cut sep cs items ↔ pieces sep cs = items := by
  rw [pieces_eq_splitOn]
  constructor
  · rintro ⟨rfl, hclean, hne⟩
    exact List.splitOn_intercalate sep hclean hne
  · rintro rfl
    refine ⟨List.intercalate_splitOn sep, fun item hitem => ?_, ?_⟩
    · rw [← pieces_eq_splitOn] at hitem
      exact not_mem_of_mem_pieces hitem
    · rw [← pieces_eq_splitOn]
      exact pieces_ne_nil sep cs

theorem cut_pieces (cs : List Char) : Cut sep cs (pieces sep cs) := cut_iff.mpr rfl

theorem pieces_append (l r : List Char) :
    pieces sep (l ++ sep :: r) = pieces sep l ++ pieces sep r := by
  rw [pieces_eq_splitOn, pieces_eq_splitOn, pieces_eq_splitOn]
  exact List.splitOn_append_cons_self l r

/-- What stands in front belongs to the first item. -/
theorem Cut.append_left {cs first : List Char} {rest : List (List Char)}
    (h : Cut sep cs (first :: rest)) {lead : List Char} (hlead : sep ∉ lead) :
    Cut sep (lead ++ cs) ((lead ++ first) :: rest) := by
  obtain ⟨rfl, hclean, -⟩ := h
  obtain ⟨hfirst, hrest⟩ := List.forall_mem_cons.mp hclean
  refine ⟨?_, List.forall_mem_cons.mpr ⟨?_, hrest⟩, List.cons_ne_nil _ _⟩
  · cases rest <;> simp [List.intercalate_cons_cons]
  · rw [List.mem_append, not_or]
    exact ⟨hlead, hfirst⟩

/-- What stands at the end belongs to the last item. -/
theorem Cut.append_right {cs last : List Char} {init : List (List Char)}
    (h : Cut sep cs (init ++ [last])) {trail : List Char} (htrail : sep ∉ trail) :
    Cut sep (cs ++ trail) (init ++ [last ++ trail]) := by
  obtain ⟨rfl, hclean, -⟩ := h
  rw [List.forall_mem_append, List.forall_mem_singleton] at hclean
  refine ⟨?_, ?_, List.append_ne_nil_of_right_ne_nil _ (List.cons_ne_nil _ _)⟩
  · induction init with
    | nil => simp
    | cons first init ih =>
      have hne (x : List Char) : init ++ [x] ≠ [] :=
        List.append_ne_nil_of_right_ne_nil _ (List.cons_ne_nil _ _)
      have hinit := ih ⟨fun item hitem => hclean.1 item (List.mem_cons_of_mem _ hitem), hclean.2⟩
      simp only [List.cons_append, List.intercalate_cons_of_ne_nil (hne _), hinit,
        List.append_assoc]
  · rw [List.forall_mem_append, List.forall_mem_singleton, List.mem_append, not_or]
    exact ⟨hclean.1, hclean.2, htrail⟩

/-- Blank characters around a text make no difference to its pieces once they are trimmed. -/
theorem Padded.map_trim_pieces (hsep : isBlank sep = false) {core cs : List Char}
    (h : Padded core cs) : (pieces sep cs).map Text.trim = (pieces sep core).map Text.trim := by
  obtain ⟨lead, trail, hlead, htrail, rfl⟩ := h
  have hright : (pieces sep (core ++ trail)).map Text.trim = (pieces sep core).map Text.trim := by
    obtain ⟨init, last, hpieces⟩ : ∃ init last, pieces sep core = init ++ [last] :=
      ⟨_, _, (List.dropLast_append_getLast (pieces_ne_nil sep core)).symm⟩
    have hcut := (cut_iff.mpr hpieces).append_right (not_mem_of_allBlank htrail hsep)
    rw [cut_iff.mp hcut, hpieces, List.map_append, List.map_append, List.map_singleton,
      List.map_singleton, (padded_of_trail htrail last).trim_congr]
  obtain ⟨first, rest, hpieces⟩ := List.exists_cons_of_ne_nil (pieces_ne_nil sep (core ++ trail))
  have hcut := (cut_iff.mpr hpieces).append_left (not_mem_of_allBlank hlead hsep)
  rw [← hright, cut_iff.mp hcut, hpieces, List.map_cons, List.map_cons,
    (padded_of_lead hlead first).trim_congr]

end

/-! ## The first separator -/

/-- What stands in front belongs to the part before the first separator. -/
theorem cut?_append_left {sep : Char} {lead : List Char} (hlead : sep ∉ lead) (cs : List Char) :
    cut? sep (lead ++ cs) = (cut? sep cs).map fun p => (lead ++ p.1, p.2) := by
  induction lead with
  | nil => simp
  | cons c lead ih =>
    rw [List.mem_cons, not_or] at hlead
    rw [List.cons_append, cut?, if_neg (Ne.symm hlead.1), ih hlead.2, Option.map_map]
    rfl

theorem cut?_eq_none {sep : Char} {cs : List Char} (h : sep ∉ cs) : cut? sep cs = none := by
  have hcut := cut?_append_left h []
  rwa [List.append_nil] at hcut

/-- What stands at the end belongs to the part after the first separator. -/
theorem cut?_append_right {sep : Char} {trail : List Char} (htrail : sep ∉ trail) (cs : List Char) :
    cut? sep (cs ++ trail) = (cut? sep cs).map fun p => (p.1, p.2 ++ trail) := by
  induction cs with
  | nil => exact cut?_eq_none htrail
  | cons c r ih =>
    rw [List.cons_append, cut?, cut?]
    split
    · rfl
    · rw [ih, Option.map_map, Option.map_map]
      rfl

/-- A text is cut at the first separator. -/
theorem cut?_eq_some_iff {sep : Char} {cs l r : List Char} :
    cut? sep cs = some (l, r) ↔ cs = l ++ sep :: r ∧ sep ∉ l := by
  constructor
  · exact cut?_eq_some
  · rintro ⟨rfl, hl⟩
    exact cut?_append hl r

end ClusterGate.Text
