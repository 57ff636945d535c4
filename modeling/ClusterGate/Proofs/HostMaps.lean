import ClusterGate.Proofs.Dictionary
import ClusterGate.Proofs.Trimming
import ClusterGate.Zone.HostMap
import Mathlib.Data.List.Forall2

/-!
# Host maps and their texts

An item between commas gives a host its zone if the two stand in it around its first colon, neither
of them blank, with blank characters around either (`ZoneMap.Gives`). The map of a text holds what
the last item for each host gives and nothing else, so that of two texts joined by a comma the
second one updates the first, and an item that gives nothing changes nothing. Every map of hosts
without comma and colon and of zones without comma is read from its texts, and only such maps are
read (`ZoneMap.parse_laws`).
-/

namespace ClusterGate.ZoneMap

/-! ## Pairs -/

/-- The text is host and zone with a colon between them and blank characters around either. -/
def Written (pair : List Char) (host zone : String) : Prop :=
  ∃ left right, pair = left ++ ':' :: right ∧
    Text.Padded host.toList left ∧ Text.Padded zone.toList right

/-- The pair gives the host its zone. -/
def Gives (pair : List Char) (host zone : String) : Prop :=
  Written pair host zone ∧ Text.Field [':'] host ∧ Text.Field [] zone

/-- Blank characters around a pair are blank characters around its host and its zone. -/
theorem readPair_eq (pair : List Char) :
    readPair pair =
      match Text.cut? ':' pair with
      | none => .error .noColon
      | some (host, zone) =>
        if (Text.trim host).isEmpty || (Text.trim zone).isEmpty then .error .emptySide
        else .ok (String.ofList (Text.trim host), String.ofList (Text.trim zone)) := by
  obtain ⟨lead, trail, hlead, htrail, hpair⟩ := Text.padded_trim pair
  have hcut : Text.cut? ':' pair =
      (Text.cut? ':' (Text.trim pair)).map fun p => (lead ++ p.1, p.2 ++ trail) := by
    conv_lhs => rw [hpair]
    rw [Text.cut?_append_left (Text.not_mem_of_allBlank hlead (by decide)),
      Text.cut?_append_right (Text.not_mem_of_allBlank htrail (by decide)), Option.map_map]
    rfl
  rw [readPair, hcut]
  cases Text.cut? ':' (Text.trim pair) with
  | none => rfl
  | some p =>
    simp only [Option.map_some, (Text.padded_of_lead hlead p.1).trim_congr,
      (Text.padded_of_trail htrail p.2).trim_congr]

/-- A pair is trimmed before it is read. -/
theorem readPair_trim (pair : List Char) : readPair (Text.trim pair) = readPair pair := by
  have htwice : Text.trim (Text.trim pair) = Text.trim pair :=
    (Text.padded_trim pair).trim_congr.symm
  rw [readPair, readPair, htwice]

/-- A pair is read as what it gives. -/
theorem readPair_eq_ok_iff {pair : List Char} {host zone : String} :
    readPair pair = .ok (host, zone) ↔ Gives pair host zone := by
  rw [readPair_eq]
  constructor
  · intro h
    cases hcut : Text.cut? ':' pair with
    | none =>
      rw [hcut] at h
      cases h
    | some p =>
      obtain ⟨left, right⟩ := p
      obtain ⟨rfl, hcolon⟩ := Text.cut?_eq_some_iff.mp hcut
      simp only [hcut] at h
      split at h
      · cases h
      · next hsolid =>
        simp only [Bool.or_eq_true, List.isEmpty_iff, not_or] at hsolid
        cases h
        have hleft := Text.padded_trim left
        refine ⟨⟨left, right, rfl, ?_, ?_⟩, ⟨?_, ?_, ?_⟩, ⟨?_, ?_, List.forall_mem_nil _⟩⟩ <;>
          simp only [String.toList_ofList, List.forall_mem_singleton]
        · exact hleft
        · exact Text.padded_trim right
        · exact hsolid.1
        · exact Text.tight_trim left
        · rwa [← hleft.mem_iff (by decide)]
        · exact hsolid.2
        · exact Text.tight_trim right
  · rintro ⟨⟨left, right, rfl, hleft, hright⟩, hhost, hzone⟩
    -- The host holds no colon, so the first one ends it.
    have hcolon : ':' ∉ left := by
      rw [hleft.mem_iff (by decide)]
      exact hhost.clean ':' List.mem_cons_self
    have hsolid : ¬(host.toList.isEmpty || zone.toList.isEmpty) = true := by
      simp only [Bool.or_eq_true, List.isEmpty_iff, not_or]
      exact ⟨hhost.nonempty, hzone.nonempty⟩
    rw [Text.cut?_append hcolon]
    simp only [hleft.trim hhost.tight, hright.trim hzone.tight]
    rw [if_neg hsolid, String.ofList_toList, String.ofList_toList]

theorem toOption_readPair_iff {pair : List Char} {host zone : String} :
    (readPair pair).toOption = some (host, zone) ↔ Gives pair host zone := by
  rw [← readPair_eq_ok_iff]
  cases readPair pair <;> simp [Except.toOption]

/-- Neither a blank character nor the colon is a comma. -/
theorem Written.comma_mem_iff {pair : List Char} {host zone : String} (h : Written pair host zone) :
    ',' ∈ pair ↔ ',' ∈ host.toList ∨ ',' ∈ zone.toList := by
  obtain ⟨left, right, rfl, hleft, hright⟩ := h
  have hblank : Text.isBlank ',' = false := by decide
  rw [List.mem_append, List.mem_cons, hleft.mem_iff hblank, hright.mem_iff hblank,
    or_iff_right (by decide : ',' ≠ ':')]

/-! ## Items -/

/-- What the items give, in order. -/
def given (items : List (List Char)) : List (String × String) :=
  items.filterMap fun item => (readPair item).toOption

theorem parse_eq_ofList (raw : String) :
    parse raw = Dict.ofList (given (Text.pieces ',' raw.toList)) := rfl

theorem given_nil : given [] = [] := rfl

theorem given_append (items items' : List (List Char)) :
    given (items ++ items') = given items ++ given items' :=
  List.filterMap_append

/-- Blank characters around items make no difference. -/
theorem given_map_trim (items : List (List Char)) : given (items.map Text.trim) = given items := by
  simp only [given, List.filterMap_map, Function.comp_def, readPair_trim]

theorem mem_given_iff {items : List (List Char)} {host zone : String} :
    (host, zone) ∈ given items ↔ ∃ item ∈ items, Gives item host zone := by
  simp only [given, List.mem_filterMap, toOption_readPair_iff]

theorem given_eq_nil {items : List (List Char)}
    (h : ∀ item ∈ items, ∀ host zone, ¬Gives item host zone) : given items = [] := by
  refine List.eq_nil_iff_forall_not_mem.mpr fun e he => ?_
  obtain ⟨item, hitem, hgives⟩ := mem_given_iff.mp he
  exact h item hitem e.1 e.2 hgives

theorem given_cons {item : List Char} {host zone : String} (h : Gives item host zone)
    (items : List (List Char)) : given (item :: items) = (host, zone) :: given items :=
  List.filterMap_cons_some (toOption_readPair_iff.mpr h)

/-- The last of the items that give the host a zone gives this one. -/
def LastGives (items : List (List Char)) (host zone : String) : Prop :=
  ∃ before item after, items = before ++ item :: after ∧ Gives item host zone ∧
    ∀ later ∈ after, ∀ zone', ¬Gives later host zone'

/-- An item at the end wins over all before it, if it gives the host a zone at all. -/
theorem lastGives_concat {items : List (List Char)} {item : List Char} {host zone : String} :
    LastGives (items ++ [item]) host zone ↔
      Gives item host zone ∨ (∀ zone', ¬Gives item host zone') ∧ LastGives items host zone := by
  constructor
  · rintro ⟨before, mid, after, hsplit, hmid, hafter⟩
    rcases List.eq_nil_or_concat' after with rfl | ⟨after, last, rfl⟩
    · obtain ⟨-, hlast⟩ := List.append_inj' hsplit rfl
      cases hlast
      exact .inl hmid
    · rw [← List.cons_append, ← List.append_assoc] at hsplit
      obtain ⟨hitems, hlast⟩ := List.append_inj' hsplit rfl
      cases hlast
      rw [List.forall_mem_append, List.forall_mem_singleton] at hafter
      exact .inr ⟨hafter.2, before, mid, after, hitems, hmid, hafter.1⟩
  · rintro (hitem | ⟨hitem, before, mid, after, rfl, hmid, hafter⟩)
    · exact ⟨items, item, [], rfl, hitem, List.forall_mem_nil _⟩
    · refine ⟨before, mid, after ++ [item], by simp, hmid, ?_⟩
      rw [List.forall_mem_append, List.forall_mem_singleton]
      exact ⟨hafter, hitem⟩

/-- Of the items for one host the last one counts. -/
theorem get?_given_iff {items : List (List Char)} {host zone : String} :
    (Dict.ofList (given items)).get? host = some zone ↔ LastGives items host zone := by
  -- From the end of the list, since the last item for a host decides.
  induction items using List.reverseRecOn generalizing zone with
  | nil =>
    refine iff_of_false (fun h => nomatch h) ?_
    rintro ⟨before, item, after, hsplit, -⟩
    cases before <;> cases hsplit
  | append_singleton items item ih =>
    rw [given_append, Dict.ofList_append, Dict.get?_updatedBy _ (Dict.wellOrdered_ofList _),
      Option.or_eq_some_iff, ih, lastGives_concat]
    have hone (zone : String) :
        (Dict.ofList (given [item])).get? host = some zone ↔ Gives item host zone := by
      constructor
      · intro h
        obtain ⟨_, hmem, hgives⟩ := mem_given_iff.mp (Dict.mem_of_get?_ofList h)
        rwa [List.mem_singleton.mp hmem] at hgives
      · intro h
        rw [given_cons h, given_nil]
        simp [Dict.ofList]
    rw [hone, Option.eq_none_iff_forall_ne_some]
    simp only [ne_eq, hone]

/-! ## Texts -/

/-- The fields of a host map: host and zone can stand between commas, and the host in front of a
colon. -/
def Fields (e : String × String) : Prop := Text.Field [',', ':'] e.1 ∧ Text.Field [','] e.2

theorem Written.gives {item : List Char} {e : String × String} (h : Written item e.1 e.2)
    (he : Fields e) : ',' ∉ item ∧ Gives item e.1 e.2 := by
  obtain ⟨hhost, hzone⟩ := he
  rw [h.comma_mem_iff, not_or]
  exact ⟨⟨hhost.clean ',' (by decide), hzone.clean ',' (by decide)⟩, h,
    hhost.mono (List.subset_cons_self _ _), hzone.mono (List.nil_subset _)⟩

theorem Gives.fields {item : List Char} {host zone : String} (h : Gives item host zone)
    (hcomma : ',' ∉ item) : Fields (host, zone) := by
  obtain ⟨hwritten, hhost, hzone⟩ := h
  rw [hwritten.comma_mem_iff, not_or] at hcomma
  constructor
  · exact ⟨hhost.nonempty, hhost.tight, List.forall_mem_cons.mpr ⟨hcomma.1, hhost.clean⟩⟩
  · exact ⟨hzone.nonempty, hzone.tight, List.forall_mem_singleton.mpr hcomma.2⟩

/-- Items that are written for some entries give these entries, and none of them is cut by a comma.
-/
theorem given_written {items : List (List Char)} {entries : List (String × String)}
    (h : List.Forall₂ (fun item e => Written item e.1 e.2) items entries)
    (hfields : ∀ e ∈ entries, Fields e) :
    given items = entries ∧ ∀ item ∈ items, ',' ∉ item := by
  induction h with
  | nil => exact ⟨rfl, List.forall_mem_nil _⟩
  | cons hitem _ ih =>
    obtain ⟨he, hrest⟩ := List.forall_mem_cons.mp hfields
    obtain ⟨hcomma, hgives⟩ := hitem.gives he
    obtain ⟨hgiven, hclean⟩ := ih hrest
    rw [given_cons hgives, hgiven]
    exact ⟨rfl, List.forall_mem_cons.mpr ⟨hcomma, hclean⟩⟩

/-- A map is read from its texts, whatever the order of its entries. -/
theorem parse_written {m : ZoneMap} (hm : m.WellOrdered) (hfields : ∀ e ∈ m.entries, Fields e)
    {order : List (String × String)} (horder : order.Perm m.entries) {items : List (List Char)}
    (hitems : List.Forall₂ (fun item e => Written item e.1 e.2) items order) :
    parse (String.ofList ([','].intercalate items)) = m := by
  obtain ⟨hgiven, hclean⟩ :=
    given_written hitems fun e he => hfields e (horder.mem_iff.mp he)
  have hpieces : given (Text.pieces ',' ([','].intercalate items)) = order := by
    by_cases hnil : items = []
    · -- The text without items has one piece, and that gives nothing.
      subst hnil
      exact hgiven
    · rw [Text.cut_iff.mp ⟨rfl, hclean, hnil⟩, hgiven]
  rw [parse_eq_ofList, String.toList_ofList, hpieces, hm.ofList_perm horder]

/-- Blank characters around a host map mean nothing. -/
theorem parse_trimmed (raw : String) : parse (Text.trimmed raw) = parse raw := by
  have hcomma : Text.isBlank ',' = false := by decide
  have hitems := (Text.padded_trim raw.toList).map_trim_pieces hcomma
  rw [parse_eq_ofList, parse_eq_ofList, Text.trimmed, String.toList_ofList, ← given_map_trim,
    ← hitems, given_map_trim]

/-- Of two texts joined by a comma the second one updates the first. -/
theorem parse_append (a b : String) :
    parse (a ++ "," ++ b) = (parse a).updatedBy (parse b) := by
  have htext : (a ++ "," ++ b).toList = a.toList ++ ',' :: b.toList := by simp
  rw [parse_eq_ofList, htext, Text.pieces_append, given_append, Dict.ofList_append,
    ← parse_eq_ofList, ← parse_eq_ofList]

/-- A host has the zone that the last item for it gives. -/
theorem get?_parse_iff {raw host zone : String} :
    (parse raw).get? host = some zone ↔
      ∃ items, Text.Cut ',' raw.toList items ∧ LastGives items host zone := by
  simp only [parse_eq_ofList, get?_given_iff, Text.cut_iff, exists_eq_left']

theorem parse_wellOrdered (raw : String) : (parse raw).WellOrdered := Dict.wellOrdered_ofList _

/-- A pair that gives nothing makes an empty map. -/
theorem parse_of_malformed {pair : String} (hcomma : ',' ∉ pair.toList)
    (h : ∀ host zone, ¬Gives pair.toList host zone) : parse pair = ∅ := by
  have hcut : Text.Cut ',' pair.toList [pair.toList] :=
    ⟨by simp, List.forall_mem_singleton.mpr hcomma, List.cons_ne_nil _ _⟩
  rw [parse_eq_ofList, Text.cut_iff.mp hcut, given_eq_nil (List.forall_mem_singleton.mpr h)]
  rfl

/-- What is read from a text can be written. -/
theorem parse_fields (raw : String) : ∀ e ∈ (parse raw).entries, Fields e := by
  rintro ⟨host, zone⟩ he
  have hget := Dict.get?_of_mem_entries (parse_wellOrdered raw).nodup he
  obtain ⟨items, hcut, before, item, after, rfl, hgives, -⟩ := get?_parse_iff.mp hget
  exact hgives.fields (hcut.clean item (by simp))

/-- Host maps are read back from their texts, with their entries in any order; of two texts joined
by a comma the second one updates the first; the last pair for a host counts, and a pair that gives
nothing might as well not be there; and what is read can be written. -/
theorem parse_laws :
    (∀ m : ZoneMap, m.WellOrdered →
      (∀ e ∈ m.entries, Text.Field [',', ':'] e.1 ∧ Text.Field [','] e.2) →
      ∀ order items, order.Perm m.entries →
        List.Forall₂ (fun item e => Written item e.1 e.2) items order →
        parse (String.ofList ([','].intercalate items)) = m) ∧
    (∀ a b, parse (a ++ "," ++ b) = (parse a).updatedBy (parse b) ∧
      ∀ host, (parse (a ++ "," ++ b)).get? host = ((parse b).get? host).or ((parse a).get? host)) ∧
    (∀ raw host zone, (parse raw).get? host = some zone ↔
      ∃ items, Text.Cut ',' raw.toList items ∧ LastGives items host zone) ∧
    (∀ pair : String, ',' ∉ pair.toList → (∀ host zone, ¬Gives pair.toList host zone) →
      ∀ a b, parse (a ++ "," ++ pair ++ "," ++ b) = parse (a ++ "," ++ b) ∧
        parse (pair ++ "," ++ b) = parse b ∧ parse (a ++ "," ++ pair) = parse a) ∧
    (∀ raw, (parse raw).WellOrdered ∧
      ∀ e ∈ (parse raw).entries, Text.Field [',', ':'] e.1 ∧ Text.Field [','] e.2) := by
  refine ⟨fun m hm hfields order items horder hitems => parse_written hm hfields horder hitems,
    fun a b => ⟨parse_append a b, fun host => ?_⟩, fun raw host zone => get?_parse_iff,
    fun pair hcomma hmalformed a b => ?_, fun raw => ⟨parse_wellOrdered raw, parse_fields raw⟩⟩
  · rw [parse_append, Dict.get?_updatedBy _ (parse_wellOrdered b)]
  · have hpair := parse_of_malformed hcomma hmalformed
    have hfront : parse (a ++ "," ++ pair) = parse a := by
      rw [parse_append, hpair]
      rfl
    refine ⟨?_, ?_, hfront⟩
    · rw [parse_append, hfront, ← parse_append]
    · rw [parse_append, hpair]
      exact (parse_wellOrdered b).ofList_perm (List.Perm.refl _)

/-- Two entries written in the other order with blank characters around their fields, and a pair
without a zone between two pairs for one host. -/
theorem parse_laws_padded :
    parse "b\t: us-east-1b ,\na :us:1a" = ⟨[("a", "us:1a"), ("b", "us-east-1b")]⟩ ∧
      parse "a:1a,a: ,a:1b" = parse "a:1a,a:1b" := by
  obtain ⟨hwritten, -, -, hmalformed, -⟩ := parse_laws
  constructor
  · have hb : Written "b\t: us-east-1b ".toList "b" "us-east-1b" :=
      ⟨['b', '\t'], " us-east-1b ".toList, by decide, ⟨[], ['\t'], by decide⟩,
        [' '], [' '], by decide⟩
    have ha : Written "\na :us:1a".toList "a" "us:1a" :=
      ⟨['\n', 'a', ' '], "us:1a".toList, by decide, ⟨['\n'], [' '], by decide⟩, [], [], by decide⟩
    refine hwritten ⟨[("a", "us:1a"), ("b", "us-east-1b")]⟩ ?_ (by decide) _
      ["b\t: us-east-1b ".toList, "\na :us:1a".toList] (List.Perm.swap ..)
      (.cons hb (.cons ha .nil))
    unfold Dict.WellOrdered
    decide +kernel
  · refine (hmalformed "a: " (by decide) (fun host zone h => ?_) "a:1a" "a:1b").1
    cases readPair_eq_ok_iff.mpr h

end ClusterGate.ZoneMap
