import ClusterGate.Proofs.Grammar
import ClusterGate.Proofs.ZoneNames

/-!
# Commands and zone names as regular patterns

Control commands and zone names are usually written down as regular patterns:

    ^\s*SET\s+SESSION\s+<namespace>\.strict_writer\s*=\s*['"]?(true|false)['"]?\s*$
    ^[a-z]{2}-[a-z]+-[0-9][a-z]$

The first one is matched ignoring case, the namespace stands for itself, and the mode is read off
the text of the group. This module holds both patterns as data, and the relation by which a text
matches a pattern (`Regular.Matches`). The functions that read the two forms read exactly what
matches (`Command.detect_iff_matches`, `Zone.isZoneName_iff_matches`).

The relation is that of the documents of pattern engines, of which no more is needed than this:

* both anchors stand at the ends of the text as a whole, and not at the ends of a line;
* `\s` is the property `White_Space`;
* ignoring case, a place of a pattern admits whatever has the simple folding of a character that it
  names, the namespace included.

Which one of several matches an engine prefers is no part of it. It makes no difference here, since
the mode is the same for all of them.
-/

namespace ClusterGate

/-! ## Patterns -/

/-- What a place in a pattern names. -/
inductive Place
  | char (c : Char)
  | range (low high : Char)
  | blank

def Place.Names : Place → Char → Prop
  | char p, c => c = p
  | range low high, c => low ≤ c ∧ c ≤ high
  | blank, c => Text.isBlank c = true

/-- The place admits the character. Ignoring case, it is enough to agree with one that it names. -/
def Place.Admits (ignoring : Bool) (place : Place) (c : Char) : Prop :=
  ∃ p, place.Names p ∧ (c = p ∨ ignoring = true ∧ Text.fold c = Text.fold p)

inductive Regular
  | nothing
  | place (place : Place)
  | sequence (first second : Regular)
  | choice (one other : Regular)
  /-- Any number of times, none included. -/
  | repeated (p : Regular)
  /-- A group, of which the text is remembered. -/
  | group (p : Regular)

namespace Regular

/-- The text matches the pattern as a whole, and these are the texts of the groups. -/
inductive Matches (ignoring : Bool) : Regular → List Char → List (List Char) → Prop
  | nothing : Matches ignoring .nothing [] []
  | place {place : Place} {c : Char} (h : place.Admits ignoring c) :
    Matches ignoring (.place place) [c] []
  | sequence {p q : Regular} {l r : List Char} {gs hs : List (List Char)}
    (hl : Matches ignoring p l gs) (hr : Matches ignoring q r hs) :
    Matches ignoring (.sequence p q) (l ++ r) (gs ++ hs)
  | one {p q : Regular} {cs : List Char} {gs : List (List Char)} (h : Matches ignoring p cs gs) :
    Matches ignoring (.choice p q) cs gs
  | other {p q : Regular} {cs : List Char} {gs : List (List Char)} (h : Matches ignoring q cs gs) :
    Matches ignoring (.choice p q) cs gs
  | done {p : Regular} : Matches ignoring (.repeated p) [] []
  | again {p : Regular} {l r : List Char} {gs hs : List (List Char)}
    (hl : Matches ignoring p l gs) (hr : Matches ignoring (.repeated p) r hs) :
    Matches ignoring (.repeated p) (l ++ r) (gs ++ hs)
  | group {p : Regular} {cs : List Char} {gs : List (List Char)} (h : Matches ignoring p cs gs) :
    Matches ignoring (.group p) cs (cs :: gs)

/-- One or more times. -/
def some (p : Regular) : Regular := .sequence p (.repeated p)

/-- Once or not at all. -/
def optional (p : Regular) : Regular := .choice p .nothing

def inOrder (ps : List Regular) : Regular := ps.foldr .sequence .nothing

/-- The characters themselves. -/
def literal (cs : List Char) : Regular := inOrder (cs.map fun c => .place (.char c))

section
variable {ignoring : Bool} {p q : Regular} {place : Place} {cs : List Char}
  {gs : List (List Char)}

theorem matches_nothing_iff : Matches ignoring .nothing cs gs ↔ cs = [] ∧ gs = [] := by
  constructor
  · rintro ⟨⟩
    exact ⟨rfl, rfl⟩
  · rintro ⟨rfl, rfl⟩
    exact .nothing

theorem matches_place_iff :
    Matches ignoring (.place place) cs gs ↔
      (∃ c, cs = [c] ∧ place.Admits ignoring c) ∧ gs = [] := by
  constructor
  · rintro ⟨⟩
    next c h => exact ⟨⟨c, rfl, h⟩, rfl⟩
  · rintro ⟨⟨c, rfl, h⟩, rfl⟩
    exact .place h

theorem matches_sequence_iff :
    Matches ignoring (.sequence p q) cs gs ↔
      ∃ l r ls rs, (cs = l ++ r ∧ gs = ls ++ rs) ∧ Matches ignoring p l ls ∧
        Matches ignoring q r rs := by
  constructor
  · rintro ⟨⟩
    next l r ls rs hl hr => exact ⟨l, r, ls, rs, ⟨rfl, rfl⟩, hl, hr⟩
  · rintro ⟨l, r, ls, rs, ⟨rfl, rfl⟩, hl, hr⟩
    exact .sequence hl hr

theorem matches_choice_iff :
    Matches ignoring (.choice p q) cs gs ↔ Matches ignoring p cs gs ∨ Matches ignoring q cs gs := by
  constructor
  · intro h
    cases h with
    | one h => exact .inl h
    | other h => exact .inr h
  · rintro (h | h)
    · exact .one h
    · exact .other h

theorem matches_group_iff :
    Matches ignoring (.group p) cs gs ↔
      ∃ inner, gs = cs :: inner ∧ Matches ignoring p cs inner := by
  constructor
  · rintro ⟨⟩
    next inner h => exact ⟨inner, rfl, h⟩
  · rintro ⟨inner, rfl, h⟩
    exact .group h

end

/-! ### Patterns without groups -/

/-- The pattern has no group, and the texts that match it are those with the property. -/
def Accepts (ignoring : Bool) (p : Regular) (P : List Char → Prop) : Prop :=
  ∀ cs gs, Matches ignoring p cs gs ↔ P cs ∧ gs = []

section
variable {ignoring : Bool} {p q : Regular} {P Q : List Char → Prop}

theorem accepts_nothing : Accepts ignoring .nothing (· = []) := fun _ _ => matches_nothing_iff

theorem accepts_place (place : Place) :
    Accepts ignoring (.place place) fun cs => ∃ c, cs = [c] ∧ place.Admits ignoring c :=
  fun _ _ => matches_place_iff

theorem Accepts.choice (hp : Accepts ignoring p P) (hq : Accepts ignoring q Q) :
    Accepts ignoring (.choice p q) fun cs => P cs ∨ Q cs := by
  intro cs gs
  rw [matches_choice_iff, hp cs gs, hq cs gs, or_and_right]

theorem Accepts.congr (hp : Accepts ignoring p P) (h : ∀ cs, P cs ↔ Q cs) :
    Accepts ignoring p Q := by
  intro cs gs
  rw [hp cs gs, h cs]

/-- A place is repeated along a text whose characters it all admits. -/
theorem accepts_repeated_place (place : Place) :
    Accepts ignoring (.repeated (.place place)) fun cs => ∀ c ∈ cs, place.Admits ignoring c := by
  intro cs gs
  constructor
  · intro h
    generalize hp : Regular.repeated (.place place) = p at h
    -- Of the constructors only the two that repeat can have built the match.
    induction h with
    | done => exact ⟨fun c hc => (nomatch hc), rfl⟩
    | again hl hr _ ih =>
      cases hp
      obtain ⟨⟨c, rfl, hc⟩, rfl⟩ := matches_place_iff.mp hl
      obtain ⟨hrest, rfl⟩ := ih rfl
      exact ⟨List.forall_mem_cons.mpr ⟨hc, hrest⟩, rfl⟩
    | _ => cases hp
  · rintro ⟨h, rfl⟩
    induction cs with
    | nil => exact .done
    | cons c cs ih =>
      obtain ⟨hc, hrest⟩ := List.forall_mem_cons.mp h
      exact .again (.place hc) (ih hrest)

theorem accepts_some_place (place : Place) :
    Accepts ignoring (some (.place place)) fun cs =>
      cs ≠ [] ∧ ∀ c ∈ cs, place.Admits ignoring c := by
  intro cs gs
  rw [some, matches_sequence_iff]
  constructor
  · rintro ⟨l, r, ls, rs, ⟨rfl, rfl⟩, hl, hr⟩
    obtain ⟨⟨c, rfl, hc⟩, rfl⟩ := matches_place_iff.mp hl
    obtain ⟨hrest, rfl⟩ := (accepts_repeated_place place _ _).mp hr
    exact ⟨⟨List.cons_ne_nil c r, List.forall_mem_cons.mpr ⟨hc, hrest⟩⟩, rfl⟩
  · rintro ⟨⟨hne, h⟩, rfl⟩
    obtain ⟨c, r, rfl⟩ := List.exists_cons_of_ne_nil hne
    obtain ⟨hc, hrest⟩ := List.forall_mem_cons.mp h
    exact ⟨[c], r, [], [], ⟨rfl, rfl⟩, .place hc,
      (accepts_repeated_place place _ _).mpr ⟨hrest, rfl⟩⟩

variable {ps : List Regular} {cs : List Char} {gs : List (List Char)}

/-- The part of a text that the first of several patterns reads, and the rest. -/
theorem Accepts.cons_iff (hp : Accepts ignoring p P) :
    Matches ignoring (inOrder (p :: ps)) cs gs ↔
      ∃ l r, cs = l ++ r ∧ P l ∧ Matches ignoring (inOrder ps) r gs := by
  show Matches ignoring (.sequence p (inOrder ps)) cs gs ↔ _
  rw [matches_sequence_iff]
  constructor
  · rintro ⟨l, r, ls, rs, ⟨rfl, rfl⟩, hl, hr⟩
    obtain ⟨hread, rfl⟩ := (hp l ls).mp hl
    exact ⟨l, r, rfl, hread, hr⟩
  · rintro ⟨l, r, rfl, hl, hr⟩
    exact ⟨l, r, [], gs, ⟨rfl, rfl⟩, (hp l []).mpr ⟨hl, rfl⟩, hr⟩

/-- A group reads the same part as the pattern in it, and remembers this part. -/
theorem Accepts.group_cons_iff (hp : Accepts ignoring p P) :
    Matches ignoring (inOrder (.group p :: ps)) cs gs ↔
      ∃ l r hs, (cs = l ++ r ∧ gs = l :: hs) ∧ P l ∧ Matches ignoring (inOrder ps) r hs := by
  show Matches ignoring (.sequence (.group p) (inOrder ps)) cs gs ↔ _
  rw [matches_sequence_iff]
  constructor
  · rintro ⟨l, r, ls, hs, ⟨rfl, rfl⟩, hl, hr⟩
    obtain ⟨inner, rfl, hinner⟩ := matches_group_iff.mp hl
    obtain ⟨hread, rfl⟩ := (hp l inner).mp hinner
    exact ⟨l, r, hs, ⟨rfl, rfl⟩, hread, hr⟩
  · rintro ⟨l, r, hs, ⟨rfl, rfl⟩, hl, hr⟩
    exact ⟨l, r, [l], hs, ⟨rfl, rfl⟩, .group ((hp l []).mpr ⟨hl, rfl⟩), hr⟩

end

/-! ### Ignoring case -/

theorem admits_char_iff {p c : Char} :
    (Place.char p).Admits true c ↔ Text.fold c = Text.fold p := by
  constructor
  · rintro ⟨p', rfl, rfl | ⟨-, h⟩⟩
    · rfl
    · exact h
  · intro h
    exact ⟨p, rfl, .inr ⟨rfl, h⟩⟩

/-- Blank characters have no case. -/
theorem admits_blank_iff {c : Char} : Place.blank.Admits true c ↔ Text.isBlank c = true := by
  constructor
  · rintro ⟨p, hp, rfl | ⟨-, h⟩⟩
    · exact hp
    · exact (Text.isBlank_of_agree h).trans hp
  · intro h
    exact ⟨c, h, .inl rfl⟩

/-- Ignoring case, a literal is matched by what agrees with it character by character. -/
theorem accepts_literal (word : List Char) :
    Accepts true (literal word) (Text.Agree · word) := by
  induction word with
  | nil => exact accepts_nothing.congr fun cs => List.map_eq_nil_iff.symm
  | cons p ps ih =>
    intro cs gs
    show Matches true (inOrder (.place (.char p) :: ps.map fun c => .place (.char c))) cs gs ↔ _
    rw [(accepts_place _).cons_iff]
    constructor
    · rintro ⟨l, r, rfl, ⟨c, rfl, hc⟩, hr⟩
      obtain ⟨hrest, rfl⟩ := (ih r gs).mp hr
      exact ⟨List.map_eq_cons_iff.mpr ⟨c, r, rfl, admits_char_iff.mp hc, hrest⟩, rfl⟩
    · rintro ⟨h, rfl⟩
      obtain ⟨c, r, rfl, hc, hrest⟩ := List.map_eq_cons_iff.mp h
      exact ⟨[c], r, rfl, ⟨c, rfl, admits_char_iff.mpr hc⟩, (ih r []).mpr ⟨hrest, rfl⟩⟩

theorem accepts_gap : Accepts true (.repeated (.place .blank)) (Text.allBlank · = true) := by
  refine (accepts_repeated_place _).congr fun cs => ?_
  simp only [admits_blank_iff, Text.allBlank, List.all_eq_true]

theorem accepts_some_gap :
    Accepts true (some (.place .blank)) fun cs => Text.allBlank cs = true ∧ cs ≠ [] := by
  refine (accepts_some_place _).congr fun cs => ?_
  simp only [admits_blank_iff, Text.allBlank, List.all_eq_true, and_comm]

end Regular

/-! ## Zone names -/

namespace Zone

open Regular (Matches accepts_place accepts_some_place matches_nothing_iff)

/-- The pattern of zone names. -/
def pattern : Regular :=
  let small : Regular := .place (.range 'a' 'z')
  let hyphen : Regular := .place (.char '-')
  .inOrder [small, small, hyphen, .some small, hyphen, .place (.range '0' '9'), small]

/-- With regard to case a place admits what it names. -/
theorem admits_iff {place : Place} {c : Char} : place.Admits false c ↔ place.Names c := by
  constructor
  · rintro ⟨p, hp, rfl | ⟨h, -⟩⟩
    · exact hp
    · cases h
  · intro h
    exact ⟨c, h, .inl rfl⟩

/-- A zone name is what matches the pattern. -/
theorem isZoneName_iff_matches {cs : List Char} :
    isZoneName cs = true ↔ Matches false pattern cs [] := by
  rw [isZoneName_iff, pattern]
  simp only [(accepts_place _).cons_iff, (accepts_some_place _).cons_iff, admits_iff]
  constructor
  · rintro ⟨hfirst, hsecond, hne, hregion, hdigit, hletter⟩
    exact ⟨_, _, rfl, ⟨_, rfl, hfirst⟩, _, _, rfl, ⟨_, rfl, hsecond⟩, _, _, rfl, ⟨_, rfl, rfl⟩,
      _, _, rfl, ⟨hne, hregion⟩, _, _, rfl, ⟨_, rfl, rfl⟩, _, _, rfl, ⟨_, rfl, hdigit⟩,
      _, _, rfl, ⟨_, rfl, hletter⟩, .nothing⟩
  · rintro ⟨_, _, rfl, ⟨first, rfl, hfirst⟩, _, _, rfl, ⟨second, rfl, hsecond⟩,
      _, _, rfl, ⟨_, rfl, rfl⟩, region, _, rfl, ⟨hne, hregion⟩, _, _, rfl, ⟨_, rfl, rfl⟩,
      _, _, rfl, ⟨digit, rfl, hdigit⟩, _, _, rfl, ⟨letter, rfl, hletter⟩, hend⟩
    obtain ⟨rfl, -⟩ := matches_nothing_iff.mp hend
    exact .name hfirst hsecond hne hregion hdigit hletter

end Zone

/-! ## Commands -/

namespace Command

open Regular (Matches Accepts accepts_nothing accepts_place accepts_literal accepts_gap
  accepts_some_gap admits_char_iff matches_nothing_iff)
open Text (Agree)

def quotePattern : Regular :=
  .optional (.choice (.place (.char '\'')) (.place (.char '"')))

/-- The pattern of commands in a namespace. -/
def pattern (space : List Char) : Regular :=
  let gap : Regular := .place .blank
  .inOrder [.repeated gap, .literal "SET".toList, .some gap, .literal "SESSION".toList, .some gap,
    .literal space, .literal ".strict_writer".toList, .repeated gap, .literal ['='], .repeated gap,
    quotePattern, .group (.choice (.literal "true".toList) (.literal "false".toList)), quotePattern,
    .repeated gap]

/-- The mode that the text of the group stands for. -/
def modeOfGroup (literal : List Char) : Bool :=
  Text.sameIgnoringCase (String.ofList literal) "true"

/-- A sign of the command agrees with itself alone. -/
theorem eq_of_fold_sign {c p : Char} (hp : p ∈ ['\'', '"', '=']) (h : Text.fold c = Text.fold p) :
    c = p :=
  Text.of_unfolded (· = ·) (by decide +kernel) hp h

/-- A sign has no case, so it is matched by itself alone. -/
theorem accepts_sign {p : Char} (hp : p ∈ ['\'', '"', '=']) :
    Accepts true (.place (.char p)) (· = [p]) := by
  refine (accepts_place _).congr fun cs => ⟨?_, ?_⟩
  · rintro ⟨c, rfl, hc⟩
    rw [eq_of_fold_sign hp (admits_char_iff.mp hc)]
  · rintro rfl
    exact ⟨p, rfl, admits_char_iff.mpr rfl⟩

theorem accepts_quotePattern : Accepts true quotePattern (· ∈ quotes) := by
  have hquote := (accepts_sign (p := '\'') (by decide)).choice (accepts_sign (p := '"') (by decide))
  refine (hquote.choice accepts_nothing).congr fun cs => ?_
  simp only [quotes, List.mem_cons, List.not_mem_nil, or_false]
  exact or_comm

/-- A letter of `true` has no other forms than the small and the capital one. -/
theorem toLower_of_agree_true {p : Char} (hp : p ∈ "true".toList) {c : Char}
    (h : Text.fold c = Text.fold p) : c.toLower = p :=
  Text.of_unfolded (·.toLower = ·) (by decide +kernel) hp h

/-- Small and capital letters are enough to tell the literals apart: nothing else agrees with
`true`, and what agrees with `false`, be it with a long s, is longer. -/
theorem modeOfGroup_of_agree {word : List Char} {enabled : Bool}
    (h : Agree word (literalText enabled)) : modeOfGroup word = enabled := by
  cases enabled with
  | true =>
    have hword : word.map Char.toLower = "true".toList := by
      rw [List.map_eq_flatMap]
      exact Text.flatMap_of_agree (fun p hp c hc => by rw [toLower_of_agree_true hp hc]) h
    rw [modeOfGroup, Text.sameIgnoringCase_iff, String.toList_ofList, hword]
    rfl
  | false =>
    have hlength : word.length = 5 := by simpa [literalText, modeValue] using congrArg List.length h
    rw [modeOfGroup, Bool.eq_false_iff, ne_eq, Text.sameIgnoringCase_iff, String.toList_ofList]
    intro hword
    have hshort := congrArg List.length hword
    simp [hlength] at hshort

/-- What matches the pattern is put together as a command, and the group is its literal. -/
theorem matches_pattern_iff {space sql : List Char} {gs : List (List Char)} :
    Matches true (pattern space) sql gs ↔
      ∃ (p : Parts) (enabled : Bool), p.text = sql ∧ p.Fit space enabled ∧ gs = [p.literal] := by
  have hequals : Accepts true (.literal ['=']) (· = ['=']) := by
    refine (accepts_literal _).congr fun cs => ⟨fun h => ?_, fun h => congrArg (List.map _) h⟩
    obtain ⟨c, rest, rfl, hc, hrest⟩ := List.map_eq_cons_iff.mp h
    rw [eq_of_fold_sign (by decide) hc, List.map_eq_nil_iff.mp hrest]
  have hmode : Accepts true (.choice (.literal "true".toList) (.literal "false".toList))
      fun cs => ∃ enabled, Agree cs (literalText enabled) :=
    ((accepts_literal _).choice (accepts_literal _)).congr fun cs => by
      rw [Bool.exists_bool, or_comm]
      rfl
  rw [pattern]
  simp only [accepts_gap.cons_iff, accepts_some_gap.cons_iff, accepts_quotePattern.cons_iff,
    hequals.cons_iff, hmode.group_cons_iff, (accepts_literal _).cons_iff]
  constructor
  · rintro ⟨lead, _, rfl, hlead, set, _, rfl, hset, setGap, _, rfl, hsetGap, session, _, rfl,
      hsession, sessionGap, _, rfl, hsessionGap, name, _, rfl, hname, key, _, rfl, hkey, before, _,
      rfl, hbefore, _, _, rfl, rfl, after, _, rfl, hafter, opening, _, rfl, hopening, literal, _,
      _, ⟨rfl, rfl⟩, ⟨enabled, hliteral⟩, closing, _, rfl, hclosing, trail, _, rfl, htrail, hend⟩
    obtain ⟨rfl, rfl⟩ := matches_nothing_iff.mp hend
    refine ⟨⟨lead, set, setGap, session, sessionGap, name, key, before, after, opening, literal,
      closing, trail⟩, enabled, ?_, ⟨hlead, hset, hsetGap, hsession, hsessionGap, hname, hkey,
      hbefore, hafter, hopening, hliteral, hclosing, htrail⟩, rfl⟩
    simp only [Parts.text, Parts.front, List.flatten_cons, List.flatten_nil, List.append_assoc,
      List.append_nil]
  · rintro ⟨p, enabled, rfl, h, rfl⟩
    refine ⟨p.lead, _, ?_, h.lead, p.set, _, rfl, h.set, p.setGap, _, rfl, h.setGap, p.session, _,
      rfl, h.session, p.sessionGap, _, rfl, h.sessionGap, p.space, _, rfl, h.space, p.key, _, rfl,
      h.key, p.beforeEquals, _, rfl, h.beforeEquals, _, _, rfl, rfl, p.afterEquals, _, rfl,
      h.afterEquals, p.opening, _, rfl, h.opening, p.literal, _, _, ⟨rfl, rfl⟩,
      ⟨enabled, h.literal⟩, p.closing, _, rfl, h.closing, p.trail, [], rfl, h.trail, .nothing⟩
    simp only [Parts.text, Parts.front, List.flatten_cons, List.flatten_nil, List.append_assoc,
      List.append_nil]

/-- A text is a command in a namespace exactly if it matches the pattern, and the mode is read off
the text of the group. -/
theorem detect_iff_matches {raw : String} {space : Namespace}
    (hspace : Namespace.ofText raw = .ok space) {sql : String} {enabled : Bool} :
    detect space sql = some enabled ↔
      ∃ literal, Matches true (pattern space.text.toList) sql.toList [literal] ∧
        modeOfGroup literal = enabled := by
  constructor
  · intro h
    obtain ⟨p, hp, hfit⟩ := spelled_of_recognise h
    exact ⟨p.literal, matches_pattern_iff.mpr ⟨p, enabled, hp, hfit, rfl⟩,
      modeOfGroup_of_agree hfit.literal⟩
  · rintro ⟨literal, hmatches, rfl⟩
    obtain ⟨p, enabled, hp, hfit, hgroup⟩ := matches_pattern_iff.mp hmatches
    cases hgroup
    rw [modeOfGroup_of_agree hfit.literal]
    exact recognise_of_spelled (Namespace.beginsSolid_of_ofText hspace) ⟨p, hp, hfit⟩

end Command

end ClusterGate
