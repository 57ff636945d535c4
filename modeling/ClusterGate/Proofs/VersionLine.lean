import ClusterGate.Proofs.Numerals
import ClusterGate.Proofs.Trimming
import ClusterGate.Version
import Mathlib.Data.List.Infix
import Mathlib.Data.List.Forall2

/-!
# What a version line says

Every line is read. It is of the engine if it holds the engine's name anywhere in any ASCII case,
and the major version is the number that the second word begins with, if the first word is the
engine's name and a full stop or the end of the word follows the number. In every other case it is 0
(`ServerVersion.ofLine_exact`).

The name is looked for in the lower case of the line. Of the characters outside ASCII two have a
lower case with an ASCII letter, and neither of the letters is one of the name, so lowering lets
nothing in that differs from the name by more than ASCII case (`Text.infix_lowered_iff`).
-/

namespace ClusterGate

namespace Text

/-! ## Words in a text -/

/-- The word stands somewhere in the text, in any ASCII case. -/
def Holds (word cs : List Char) : Prop :=
  ∃ spelled, spelled <:+: cs ∧ spelled.map Char.toLower = word

theorem holds_iff_infix {word cs : List Char} : Holds word cs ↔ word <:+: cs.map Char.toLower := by
  rw [List.infix_map_iff]
  exact exists_congr fun spelled => and_congr_right' eq_comm

theorem contains_iff_infix {word cs : List Char} : contains word cs = true ↔ word <:+: cs := by
  induction cs with
  | nil => simp [contains]
  | cons c r ih =>
    rw [contains, Bool.or_eq_true, ih, List.isPrefixOf_iff_prefix, List.infix_cons_iff]

/-! ## Lower case -/

/-- The characters are a lower case of `c`: the one that `lower` has wherever an ASCII letter is in
it, and any others that are no ASCII letters elsewhere. -/
def LowersTo (c : Char) (block : List Char) : Prop :=
  block ≠ [] ∧ ((∃ d ∈ block ++ lower c, d.isAlpha = true) → block = lower c)

/-- The word has ASCII letters only, and none of them is in the lower case of a character outside
ASCII. -/
def Unmixed (word : List Char) : Prop :=
  ∀ d ∈ word, d.isAlpha = true ∧ ∀ e ∈ lowerTable, d ∉ e.2

instance (word : List Char) : Decidable (Unmixed word) :=
  List.decidableBAll _ word

theorem Unmixed.tail {d : Char} {word : List Char} (h : Unmixed (d :: word)) : Unmixed word :=
  fun d' hd' => h d' (List.mem_cons_of_mem d hd')

/-- The lower case that the reader takes is one of the lower cases. -/
theorem lowersTo_lower (c : Char) : LowersTo c (lower c) := by
  refine ⟨?_, fun _ => rfl⟩
  have htable : ∀ e ∈ lowerTable, e.2 ≠ [] := by decide
  rw [lower]
  cases hlookup : lowerTable.lookup c with
  | none => exact List.cons_ne_nil _ _
  | some image =>
    obtain ⟨before, after, hsplit, -⟩ := List.lookup_eq_some_iff.mp hlookup
    exact htable (c, image) (by rw [hsplit]; simp)

/-- As far as the letters of such a word go, a character becomes its ASCII lower case or is lost on
either side. -/
theorem LowersTo.eq_or_foreign {c : Char} {block word : List Char} (h : LowersTo c block)
    (hword : Unmixed word) :
    block = [c.toLower] ∨ (∀ d ∈ word, d ∉ block) ∧ c.toLower ∉ word := by
  have htable : ∀ e ∈ lowerTable, e.1.toLower.isAlpha = false := by decide
  cases hlookup : lowerTable.lookup c with
  | some image =>
    obtain ⟨before, after, hsplit, -⟩ := List.lookup_eq_some_iff.mp hlookup
    have hentry : (c, image) ∈ lowerTable := by rw [hsplit]; simp
    have himage : lower c = image := by rw [lower, hlookup]; rfl
    refine .inr ⟨fun d hd hblock => ?_, fun hc => ?_⟩
    · obtain ⟨halpha, hforeign⟩ := hword d hd
      have hlower := h.2 ⟨d, List.mem_append_left _ hblock, halpha⟩
      exact hforeign (c, image) hentry (by rwa [← himage, ← hlower])
    · have halpha := (hword _ hc).1
      rw [htable (c, image) hentry] at halpha
      cases halpha
  | none =>
    have hlower : lower c = [c.toLower] := by rw [lower, hlookup]; rfl
    by_cases hletter : ∃ d ∈ block ++ lower c, d.isAlpha = true
    · exact .inl ((h.2 hletter).trans hlower)
    · refine .inr ⟨fun d hd hblock => hletter ⟨d, List.mem_append_left _ hblock, (hword d hd).1⟩,
        fun hc => hletter ⟨c.toLower, List.mem_append_right _ ?_, (hword _ hc).1⟩⟩
      rw [hlower]
      exact List.mem_singleton.mpr rfl

/-- A word does not begin or end among characters that are none of its own. -/
theorem infix_append_iff_of_foreign {word block : List Char} (hne : word ≠ [])
    (hforeign : ∀ d ∈ word, d ∉ block) (cs : List Char) :
    word <:+: block ++ cs ↔ word <:+: cs := by
  obtain ⟨d, rest, rfl⟩ := List.exists_cons_of_ne_nil hne
  induction block with
  | nil => rfl
  | cons b block ih =>
    have hb : ¬d = b := fun heq => hforeign d List.mem_cons_self (heq ▸ List.mem_cons_self)
    have hrest : ∀ d' ∈ d :: rest, d' ∉ block := fun d' hd' hmem =>
      hforeign d' hd' (List.mem_cons_of_mem b hmem)
    rw [List.cons_append, List.infix_cons_iff, ih hrest, List.cons_prefix_cons]
    simp [hb]

/-- Lower case outside ASCII makes no difference to a word whose letters do not occur in it. -/
theorem prefix_lowered_iff {word cs : List Char} {blocks : List (List Char)}
    (hword : Unmixed word) (h : List.Forall₂ LowersTo cs blocks) :
    word <+: blocks.flatten ↔ word <+: cs.map Char.toLower := by
  induction h generalizing word with
  | nil => rfl
  | @cons c block cs blocks hc hrest ih =>
    cases word with
    | nil => simp
    | cons d word =>
      rw [List.flatten_cons, List.map_cons, List.cons_prefix_cons]
      rcases hc.eq_or_foreign hword with rfl | ⟨hblock, hlower⟩
      · rw [List.singleton_append, List.cons_prefix_cons, ih hword.tail]
      · obtain ⟨b, block, rfl⟩ := List.exists_cons_of_ne_nil hc.1
        rw [List.cons_append, List.cons_prefix_cons]
        refine iff_of_false ?_ ?_
        · rintro ⟨rfl, -⟩
          exact hblock d List.mem_cons_self List.mem_cons_self
        · rintro ⟨rfl, -⟩
          exact hlower List.mem_cons_self

/-- Such a word stands in the lower case of a text exactly where it stands in the text in some ASCII
case. -/
theorem infix_lowered_iff {word cs : List Char} {blocks : List (List Char)} (hne : word ≠ [])
    (hword : Unmixed word) (h : List.Forall₂ LowersTo cs blocks) :
    word <:+: blocks.flatten ↔ word <:+: cs.map Char.toLower := by
  -- Block by block: the word may begin in this one, or stand in those that follow.
  induction h with
  | nil => rfl
  | @cons c block cs blocks hc hrest ih =>
    have hprefix := prefix_lowered_iff hword (.cons hc hrest)
    rw [List.flatten_cons, List.map_cons] at hprefix ⊢
    rcases hc.eq_or_foreign hword with rfl | ⟨hblock, hlower⟩
    · rw [List.singleton_append] at hprefix ⊢
      rw [List.infix_cons_iff, List.infix_cons_iff, hprefix, ih]
    · rw [infix_append_iff_of_foreign hne hblock, ih, List.infix_cons_iff, or_iff_right]
      obtain ⟨d, rest, rfl⟩ := List.exists_cons_of_ne_nil hne
      rw [List.cons_prefix_cons]
      rintro ⟨rfl, -⟩
      exact hlower List.mem_cons_self

theorem forall₂_lowersTo (cs : List Char) : List.Forall₂ LowersTo cs (cs.map lower) := by
  rw [List.forall₂_map_right_iff, List.forall₂_same]
  exact fun c _ => lowersTo_lower c

/-! ## Up to a separator -/

theorem upTo_append {sep : Char} {l r : List Char} (hl : sep ∉ l)
    (hr : r = [] ∨ ∃ r', r = sep :: r') : upTo sep (l ++ r) = l := by
  have hkept : ∀ c ∈ l, decide (c ≠ sep) = true := fun c hc =>
    decide_eq_true fun heq => hl (heq ▸ hc)
  rw [upTo, List.takeWhile_append_of_pos hkept]
  rcases hr with rfl | ⟨r', rfl⟩ <;> simp

theorem exists_upTo (sep : Char) (cs : List Char) :
    ∃ rest, cs = upTo sep cs ++ rest ∧ (rest = [] ∨ ∃ rest', rest = sep :: rest') := by
  refine ⟨cs.dropWhile (· ≠ sep), List.takeWhile_append_dropWhile.symm, ?_⟩
  cases hrest : cs.dropWhile (· ≠ sep) with
  | nil => exact .inl rfl
  | cons c r =>
    have hhead := List.head?_dropWhile_not (· ≠ sep) cs
    rw [hrest] at hhead
    simp only [List.head?_cons, decide_not, Bool.not_eq_eq_eq_not, Bool.not_false,
      decide_eq_true_eq] at hhead
    exact .inr ⟨r, by rw [hhead]⟩

end Text

namespace ServerVersion

/-- The line announces the major version `m`: of its words, which end at single spaces, the first is
the engine in any ASCII case, and the second is a numeral of `m`, alone or before a full stop. -/
def Announces (line : String) (m : Nat) : Prop :=
  ∃ engine version others, Text.Cut ' ' line.toList (engine :: version :: others) ∧
    engine.map Char.toLower = "postgresql".toList ∧
    ∃ major minor, version = major ++ minor ∧ (minor = [] ∨ ∃ rest, minor = '.' :: rest) ∧
      Text.Numeral major m

theorem namesEngine_iff_infix {line : String} {blocks : List (List Char)}
    (h : List.Forall₂ Text.LowersTo line.toList blocks) :
    "postgresql".toList <:+: blocks.flatten ↔ Text.Holds "postgresql".toList line.toList := by
  rw [Text.holds_iff_infix, Text.infix_lowered_iff (by decide) (by decide) h]

/-- The line names the engine exactly if its name stands there in some ASCII case. -/
theorem namesEngine_iff (line : String) :
    namesEngine line = true ↔ Text.Holds "postgresql".toList line.toList := by
  rw [namesEngine, Text.contains_iff_infix, List.flatMap_def]
  exact namesEngine_iff_infix (Text.forall₂_lowersTo _)

/-- A line that announces a version names the engine. -/
theorem Announces.namesEngine {line : String} {m : Nat} (h : Announces line m) :
    namesEngine line = true := by
  obtain ⟨engine, version, others, hcut, hengine, -⟩ := h
  have hprefix : engine <+: line.toList := by
    rw [← hcut.joined, List.intercalate_cons_cons, List.append_assoc]
    exact List.prefix_append _ _
  exact (namesEngine_iff line).mpr ⟨engine, hprefix.isInfix, hengine⟩

/-- A major version is read exactly where one below the bound is announced. -/
theorem major?_eq_ok_iff {line : String} {m : Nat} :
    major? line = .ok m ↔ Announces line m ∧ m < majorBound := by
  have hbound : 0 < majorBound := by decide
  have hsame (engine : List Char) :
      Text.sameIgnoringCase (String.ofList engine) targetEngine = true ↔
        engine.map Char.toLower = "postgresql".toList := by
    rw [Text.sameIgnoringCase_iff, String.toList_ofList]
    exact Iff.rfl
  constructor
  · intro h
    rw [major?] at h
    split at h
    · next engine version others hpieces =>
      split at h
      · next hengine =>
        obtain ⟨minor, hversion, hminor⟩ := Text.exists_upTo '.' version
        cases hread : Text.readDecimal majorBound (Text.upTo '.' version) with
        | error fault =>
          rw [hread] at h
          cases h
        | ok read =>
          rw [hread] at h
          cases h
          obtain ⟨hnumeral, hm⟩ := (Text.readDecimal_eq_ok_iff hbound).mp hread
          exact ⟨⟨engine, version, others, Text.cut_iff.mpr hpieces, (hsame engine).mp hengine, _,
            minor, hversion, hminor, hnumeral⟩, hm⟩
      · cases h
    · cases h
  · rintro ⟨⟨engine, version, others, hcut, hengine, major, minor, rfl, hminor, hnumeral⟩, hm⟩
    -- A numeral holds no full stop, so the first one ends it.
    have hstop : '.' ∉ major := hnumeral.not_mem (by decide) (by decide)
    have hread := (Text.readDecimal_eq_ok_iff hbound).mpr ⟨hnumeral, hm⟩
    rw [major?, Text.cut_iff.mp hcut]
    dsimp only
    rw [if_pos ((hsame engine).mpr hengine), Text.upTo_append hstop hminor, hread]
    rfl

theorem major_ofLine_eq (line : String) :
    (ofLine line).major = (major? line).toOption.getD 0 := by
  rw [ofLine]
  split
  · rfl
  · next hnamed =>
    cases hmajor : major? line with
    | error fault => rfl
    | ok m => exact absurd (major?_eq_ok_iff.mp hmajor).1.namesEngine hnamed

/-- A major version other than zero is the one that the line announces. -/
theorem major_ofLine_iff {line : String} {m : Nat} (hm : 0 < m) :
    (ofLine line).major = m ↔ m < majorBound ∧ Announces line m := by
  rw [major_ofLine_eq, and_comm, ← major?_eq_ok_iff]
  cases major? line with
  | error fault =>
    refine iff_of_false (fun h => ?_) (fun h => nomatch h)
    exact absurd h (Nat.ne_of_lt hm)
  | ok read => simp [Except.toOption]

/-- Whatever follows the number and a full stop. -/
theorem announces_printed (m : Nat) (rest : String) :
    Announces ("PostgreSQL " ++ toString m ++ "." ++ rest) m := by
  have hnumeral := Text.numeral_toString m
  have hline : ("PostgreSQL " ++ toString m ++ "." ++ rest).toList =
      "PostgreSQL".toList ++ ' ' :: ((toString m).toList ++ ['.'] ++ rest.toList) := by
    simp [String.toList_append]
  have hlead : ' ' ∉ (toString m).toList ++ ['.'] := by
    rw [List.mem_append, not_or]
    exact ⟨hnumeral.not_mem (by decide) (by decide), by decide⟩
  obtain ⟨first, others, hpieces⟩ :=
    List.exists_cons_of_ne_nil (Text.pieces_ne_nil ' ' rest.toList)
  have hversion := Text.cut_iff.mp ((Text.cut_iff.mpr hpieces).append_left hlead)
  refine ⟨"PostgreSQL".toList, (toString m).toList ++ ['.'] ++ first, others,
    Text.cut_iff.mpr ?_, by decide, (toString m).toList, '.' :: first, ?_, .inr ⟨first, rfl⟩,
    hnumeral⟩
  · rw [hline, Text.pieces_append_sep (by decide), hversion]
  · rw [List.append_assoc]
    rfl

/-- The line is kept. It is of the engine exactly if it holds the name of the engine in any ASCII
case, and looking for the name in a lower case of the line finds it there and nowhere else; every
other line is of an unknown engine, with major version 0. The major version is a positive number
exactly if the line announces this number and it is below 2 to the power 32; in every other case it
is 0. From a line that begins with the engine, a space, a number below that bound and a full stop
the number is read, whatever comes then. -/
theorem ofLine_exact :
    (∀ line, (ofLine line).line = line ∧
      ((ofLine line).engine = targetEngine ↔ Text.Holds "postgresql".toList line.toList) ∧
      (∀ blocks, List.Forall₂ Text.LowersTo line.toList blocks →
        ("postgresql".toList <:+: blocks.flatten ↔ (ofLine line).engine = targetEngine)) ∧
      (¬Text.Holds "postgresql".toList line.toList →
        (ofLine line).engine = unknownEngine ∧ (ofLine line).major = 0) ∧
      (∀ m, 0 < m → ((ofLine line).major = m ↔ m < Nat.pow 2 32 ∧ Announces line m)) ∧
      ((ofLine line).major = 0 ↔ ∀ m, 0 < m → m < Nat.pow 2 32 → ¬Announces line m)) ∧
    ∀ m minor rest, m < Nat.pow 2 32 →
      (ofLine ("PostgreSQL " ++ toString m ++ "." ++ minor ++ " " ++ rest)).engine = targetEngine ∧
        (ofLine ("PostgreSQL " ++ toString m ++ "." ++ minor ++ " " ++ rest)).major = m := by
  have hengine (line : String) : (ofLine line).engine = targetEngine ↔
      Text.Holds "postgresql".toList line.toList := by
    rw [← namesEngine_iff, ofLine]
    cases namesEngine line <;> simp [targetEngine, unknownEngine]
  refine ⟨fun line => ⟨?_, hengine line, fun blocks hblocks => ?_, fun hother => ?_,
    fun m hm => major_ofLine_iff hm, ?_⟩, fun m minor rest hm => ?_⟩
  · rw [ofLine]
    split <;> rfl
  · rw [hengine, namesEngine_iff_infix hblocks]
  · rw [← namesEngine_iff] at hother
    rw [ofLine, if_neg hother]
    exact ⟨rfl, rfl⟩
  · constructor
    · intro hzero m hm hbound hannounced
      rw [(major_ofLine_iff hm).mpr ⟨hbound, hannounced⟩] at hzero
      exact absurd hzero (Nat.ne_of_gt hm)
    · intro hnone
      -- Any other major version would have been announced.
      by_contra hmajor
      obtain ⟨hbound, hannounced⟩ := (major_ofLine_iff (Nat.pos_of_ne_zero hmajor)).mp rfl
      exact hnone _ (Nat.pos_of_ne_zero hmajor) hbound hannounced
  · have hannounced : Announces ("PostgreSQL " ++ toString m ++ "." ++ minor ++ " " ++ rest) m := by
      have hprinted := announces_printed m (minor ++ " " ++ rest)
      rwa [← String.append_assoc, ← String.append_assoc] at hprinted
    refine ⟨(hengine _).mpr ((namesEngine_iff _).mp hannounced.namesEngine), ?_⟩
    rw [major_ofLine_eq, major?_eq_ok_iff.mpr ⟨hannounced, hm⟩]
    rfl

/-- A version with a plus sign and leading zeros in a line in capitals, and the largest version with
a line that goes on with spaces and full stops. -/
theorem ofLine_exact_signed :
    (ofLine "POSTGRESQL +0017.x on").major = 17 ∧
      (ofLine ("PostgreSQL " ++ toString 4294967295 ++ "." ++ " . " ++ " " ++ "2.")).major =
        4294967295 := by
  obtain ⟨hlines, hprinted⟩ := ofLine_exact
  constructor
  · obtain ⟨-, -, -, -, hmajor, -⟩ := hlines "POSTGRESQL +0017.x on"
    refine (hmajor 17 (by decide)).mpr ⟨by decide, "POSTGRESQL".toList, "+0017.x".toList,
      ["on".toList], Text.cut_iff.mpr (by decide), by decide, "+0017".toList, ".x".toList,
      by decide, .inr ⟨['x'], by decide⟩, ['+'], "0017".toList, by decide, .inr rfl, by decide,
      List.all_eq_true.mp (by decide), ?_⟩
    decide
  · exact (hprinted 4294967295 " . " "2." (by decide)).2

end ServerVersion

end ClusterGate
