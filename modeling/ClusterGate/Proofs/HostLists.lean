import ClusterGate.Host.Listing
import ClusterGate.Proofs.Numerals
import Mathlib.Data.List.Forall2

/-!
# Host lists and their texts

A text spells a host list if its items between commas spell the entries in order, with blank items
anywhere between them. An item spells an entry if role, host and port stand in it between colons,
with blank characters around any of them, the role in any ASCII case and the port as any of its
numerals (`Listing.Spells`). Reading is exact: a list is read from the texts that spell it, and of
every other text the first item that is neither blank nor spells an entry is named
(`Listing.parse_exact`).
-/

namespace ClusterGate

namespace Text

/-- Blank characters have no case. -/
theorem toLower_of_isBlank {c : Char} (h : isBlank c = true) : c.toLower = c := by
  have hupper : ¬(c.val ≥ 'A'.val ∧ c.val ≤ 'Z'.val) := by
    rintro ⟨hlow, hhigh⟩
    have hlow : 65 ≤ c.toNat := hlow
    have hhigh : c.toNat ≤ 90 := hhigh
    rw [isBlank_of_between (by omega) (by omega)] at h
    cases h
  exact dif_neg hupper

/-- Blank characters have no case, so of two texts that differ in ASCII case both are tight or none.
-/
theorem Tight.of_map_toLower {cs : List Char} (h : Tight (cs.map Char.toLower)) : Tight cs := by
  have hback {found : Option Char} (h : (found.map Char.toLower).any isBlank = false) :
      found.any isBlank = false := by
    cases found with
    | none => rfl
    | some c =>
      cases hblank : isBlank c with
      | false => exact hblank
      | true =>
        rw [Option.map_some, Option.any_some, toLower_of_isBlank hblank, hblank] at h
        cases h
  rw [Tight, List.head?_map, List.getLast?_map] at h
  exact ⟨hback h.1, hback h.2⟩

end Text

/-! ## Roles -/

namespace HostRole

/-- The text is the name of the role in some ASCII case, with blank characters around it. -/
def Names (text : List Char) (role : HostRole) : Prop :=
  ∃ word, Text.Padded word text ∧ word.map Char.toLower = role.name.toList

theorem name_tight (role : HostRole) : Text.Tight role.name.toList := by
  cases role <;> decide

/-- The two roles have different names. -/
theorem name_inj {role role' : HostRole} (h : role.name.toList = role'.name.toList) :
    role = role' := by
  revert h
  cases role <;> cases role' <;> decide

theorem names_iff {text : List Char} {role : HostRole} :
    Names text role ↔ (Text.trim text).map Char.toLower = role.name.toList := by
  constructor
  · rintro ⟨word, hword, hlower⟩
    have htight : Text.Tight word := .of_map_toLower (hlower ▸ role.name_tight)
    rw [hword.trim htight, hlower]
  · exact fun h => ⟨_, Text.padded_trim text, h⟩

theorem Names.unique {text : List Char} {role role' : HostRole} (h : Names text role)
    (h' : Names text role') : role = role' :=
  name_inj ((names_iff.mp h).symm.trans (names_iff.mp h'))

/-- A role is read from its names. -/
theorem parse?_eq_some_iff {text : List Char} {role : HostRole} :
    parse? (String.ofList text) = some role ↔ Names text role := by
  have hsame (role : HostRole) :
      Text.sameIgnoringCase (Text.trimmed (String.ofList text)) role.name = true ↔
        Names text role := by
    -- The names of roles are in small letters.
    have hname : role.name.toList.map Char.toLower = role.name.toList := by
      cases role <;> decide
    rw [Text.sameIgnoringCase_iff, Text.trimmed, String.toList_ofList, String.toList_ofList, hname,
      names_iff]
  have hwriter : Text.sameIgnoringCase (Text.trimmed (String.ofList text)) "writer" = true ↔
      Names text .writer := hsame .writer
  have hreader : Text.sameIgnoringCase (Text.trimmed (String.ofList text)) "reader" = true ↔
      Names text .reader := hsame .reader
  rw [parse?]
  by_cases hw : Names text .writer
  · rw [if_pos (hwriter.mpr hw), Option.some.injEq]
    exact ⟨fun h => h ▸ hw, hw.unique⟩
  · rw [if_neg (mt hwriter.mp hw)]
    by_cases hr : Names text .reader
    · rw [if_pos (hreader.mpr hr), Option.some.injEq]
      exact ⟨fun h => h ▸ hr, hr.unique⟩
    · rw [if_neg (mt hreader.mp hr)]
      refine iff_of_false (fun h => nomatch h) ?_
      cases role with
      | writer => exact hw
      | reader => exact hr

/-- Blank characters around a role mean nothing. -/
theorem parse?_padded {core text : List Char} (h : Text.Padded core text) :
    parse? (String.ofList text) = parse? (String.ofList core) := by
  rw [parse?, parse?, Text.trimmed, Text.trimmed, String.toList_ofList, String.toList_ofList,
    h.trim_congr]

/-- Neither a blank character nor a letter separates. -/
theorem Names.not_mem {text : List Char} {role : HostRole} (h : Names text role) {c : Char}
    (hblank : Text.isBlank c = false) (hname : c.toLower ∉ role.name.toList) : c ∉ text := by
  obtain ⟨word, hword, hlower⟩ := h
  rw [hword.mem_iff hblank]
  exact fun hc => hname (hlower ▸ List.mem_map_of_mem hc)

end HostRole

namespace Listing

/-! ## Entries -/

/-- The item spells the entry. -/
def Spells (item : List Char) (spec : HostSpec) : Prop :=
  ∃ role host port number, item = role ++ ':' :: (host ++ ':' :: port) ∧
    HostRole.Names role spec.role ∧
    Text.Padded spec.host.toList host ∧ Text.Field [':'] spec.host ∧
    Text.Padded number port ∧ Text.Numeral number spec.port ∧ spec.port < portBound

/-- An item is cut at its first two colons, so the port may hold colons and the other fields may
not. -/
theorem fields?_eq_some_iff {item role host port : List Char} :
    fields? item = some (role, host, port) ↔
      item = role ++ ':' :: (host ++ ':' :: port) ∧ ':' ∉ role ∧ ':' ∉ host := by
  simp only [fields?, bind, Option.bind_eq_some_iff, Prod.exists, Text.cut?_eq_some_iff, pure,
    Option.some.injEq, Prod.mk.injEq]
  constructor
  · rintro ⟨_, _, ⟨rfl, hrole⟩, _, _, ⟨rfl, hhost⟩, rfl, rfl, rfl⟩
    exact ⟨rfl, hrole, hhost⟩
  · rintro ⟨rfl, hrole, hhost⟩
    exact ⟨_, _, ⟨rfl, hrole⟩, _, _, ⟨rfl, hhost⟩, rfl, rfl, rfl⟩

/-- An entry is read from the items that spell it. -/
theorem spec?_eq_some_iff {item : List Char} {spec : HostSpec} :
    spec? item = some spec ↔ Spells item spec := by
  have hbound : 0 < portBound := by decide
  have hread (port : List Char) (n : Nat) :
      (Text.readDecimal portBound (Text.trim port)).toOption = some n ↔
        Text.Numeral (Text.trim port) n ∧ n < portBound := by
    rw [← Text.readDecimal_eq_ok_iff hbound]
    cases Text.readDecimal portBound (Text.trim port) <;> simp [Except.toOption]
  simp only [spec?, bind, Option.bind_eq_some_iff, Prod.exists, fields?_eq_some_iff, hread,
    HostRole.parse?_eq_some_iff]
  constructor
  · rintro ⟨role, host, port, ⟨rfl, hrole, hhost⟩, read, hname, n, ⟨hnumeral, hn⟩, hspec⟩
    split at hspec
    · cases hspec
    · next hblank =>
      cases hspec
      have hpadded := Text.padded_trim host
      refine ⟨role, host, port, Text.trim port, rfl, hname, ?_, ⟨?_, ?_, ?_⟩, Text.padded_trim port,
        hnumeral, hn⟩
      · rwa [String.toList_ofList]
      · rw [String.toList_ofList]
        exact fun hnil => hblank (Text.trim_eq_nil.mp hnil)
      · rw [String.toList_ofList]
        exact Text.tight_trim host
      · rw [String.toList_ofList, List.forall_mem_singleton, ← hpadded.mem_iff (by decide)]
        exact hhost
  · rintro ⟨role, host, port, number, rfl, hname, hpadded, hfield, hport, hnumeral, hn⟩
    have htrim := hpadded.trim hfield.tight
    -- Neither role nor host holds the colon that ends it.
    have hcolon : ':' ∉ role :=
      hname.not_mem (by decide) (by cases spec.role <;> decide)
    refine ⟨role, host, port, ⟨rfl, hcolon, ?_⟩, spec.role, hname, spec.port, ⟨?_, hn⟩, ?_⟩
    · rw [hpadded.mem_iff (by decide)]
      exact hfield.clean ':' (List.mem_singleton.mpr rfl)
    · rw [hport.trim hnumeral.tight]
      exact hnumeral
    · have hsolid : ¬Text.allBlank host = true := by
        rw [← Text.trim_eq_nil, htrim]
        exact hfield.nonempty
      rw [if_neg hsolid, htrim, String.ofList_toList]

theorem fields?_append {lead trail : List Char} (hlead : ':' ∉ lead) (htrail : ':' ∉ trail)
    (item : List Char) :
    fields? (lead ++ (item ++ trail)) =
      (fields? item).map fun f => (lead ++ f.1, f.2.1, f.2.2 ++ trail) := by
  rw [fields?, fields?, Text.cut?_append_left hlead, Text.cut?_append_right htrail]
  cases Text.cut? ':' item with
  | none => rfl
  | some p =>
    simp only [Option.map_some, bind, Option.bind_some, Text.cut?_append_right htrail]
    cases Text.cut? ':' p.2 <;> rfl

/-- Blank characters around an item are blank characters around its role and its port. -/
theorem spec?_padded {core item : List Char} (h : Text.Padded core item) :
    spec? item = spec? core := by
  obtain ⟨lead, trail, hlead, htrail, rfl⟩ := h
  have hfields := fields?_append (Text.not_mem_of_allBlank hlead (by decide))
    (Text.not_mem_of_allBlank htrail (by decide)) core
  rw [spec?, spec?, hfields]
  cases fields? core with
  | none => rfl
  | some f =>
    simp only [Option.map_some, bind, Option.bind_some,
      HostRole.parse?_padded (Text.padded_of_lead hlead f.1),
      (Text.padded_of_trail htrail f.2.2).trim_congr]

/-- Blank characters around an item make no difference. -/
theorem spec?_trim (item : List Char) : spec? (Text.trim item) = spec? item :=
  (spec?_padded (Text.padded_trim item)).symm

/-! ## Lists -/

/-- The items spell the list: blank items spell nothing, and every other item spells the next entry.
-/
inductive SpellList : List (List Char) → List HostSpec → Prop
  | nil : SpellList [] []
  | blank {item items specs} (hitem : Text.allBlank item = true) (hrest : SpellList items specs) :
    SpellList (item :: items) specs
  | entry {item spec items specs} (hitem : Spells item spec) (hrest : SpellList items specs) :
    SpellList (item :: items) (spec :: specs)

/-- The item is blank or spells an entry. -/
def Sound (item : List Char) : Prop := Text.allBlank item = true ∨ ∃ spec, Spells item spec

instance (item : List Char) : Decidable (Sound item) :=
  decidable_of_iff (Text.allBlank item = true ∨ (spec? item).isSome = true) <| by
    rw [Sound, Option.isSome_iff_exists]
    simp only [spec?_eq_some_iff]

/-- The first item that is not sound. -/
def FirstFault (items : List (List Char)) (item : List Char) : Prop :=
  ∃ before after, items = before ++ item :: after ∧ (∀ i ∈ before, Sound i) ∧ ¬Sound item

theorem firstFault_cons_of_sound {first : List Char} (h : Sound first) {rest : List (List Char)}
    {item : List Char} : FirstFault (first :: rest) item ↔ FirstFault rest item := by
  constructor
  · rintro ⟨before, after, hsplit, hbefore, hitem⟩
    cases before with
    | nil =>
      cases hsplit
      exact absurd h hitem
    | cons i before =>
      cases hsplit
      exact ⟨before, after, rfl, (List.forall_mem_cons.mp hbefore).2, hitem⟩
  · rintro ⟨before, after, rfl, hbefore, hitem⟩
    exact ⟨first :: before, after, rfl, List.forall_mem_cons.mpr ⟨h, hbefore⟩, hitem⟩

theorem firstFault_cons_of_not_sound {first : List Char} (h : ¬Sound first)
    {rest : List (List Char)} {item : List Char} :
    FirstFault (first :: rest) item ↔ item = first := by
  constructor
  · rintro ⟨before, after, hsplit, hbefore, -⟩
    cases before with
    | nil =>
      cases hsplit
      rfl
    | cons i before =>
      cases hsplit
      exact absurd (hbefore first List.mem_cons_self) h
  · rintro rfl
    exact ⟨[], rest, rfl, List.forall_mem_nil _, h⟩

def readItems (items : List (List Char)) : Except ListingError (List HostSpec) :=
  ((items.map Text.trim).filter fun e => !e.isEmpty).mapM readEntry

theorem parse_eq_readItems (raw : String) :
    parse raw = readItems (Text.pieces ',' raw.toList) := rfl

theorem readItems_cons_blank {item : List Char} (h : Text.allBlank item = true)
    (items : List (List Char)) : readItems (item :: items) = readItems items := by
  rw [readItems, List.map_cons, Text.trim_eq_nil.mpr h]
  rfl

theorem readItems_cons_solid {item : List Char} (h : ¬Text.allBlank item = true)
    (items : List (List Char)) :
    readItems (item :: items) =
      match spec? item with
      | some spec => (readItems items).map (spec :: ·)
      | none => .error (.invalidEntry (String.ofList (Text.trim item))) := by
  have hkept : (!(Text.trim item).isEmpty) = true := by
    rw [Bool.not_eq_true', List.isEmpty_eq_false_iff]
    exact mt Text.trim_eq_nil.mp h
  rw [readItems, List.map_cons, List.filter_cons, if_pos hkept, List.mapM_cons, readEntry,
    spec?_trim]
  cases spec? item with
  | none => rfl
  | some spec =>
    show (readItems items).bind _ = _
    cases readItems items <;> rfl

/-- An item that spells an entry is not blank. -/
theorem Spells.solid {item : List Char} {spec : HostSpec} (h : Spells item spec) :
    ¬Text.allBlank item = true := by
  intro hblank
  obtain ⟨role, host, port, number, rfl, -⟩ := h
  exact Text.not_mem_of_allBlank hblank (by decide : Text.isBlank ':' = false) (by simp)

/-- A list is read from the items that spell it. -/
theorem readItems_eq_ok_iff {items : List (List Char)} {specs : List HostSpec} :
    readItems items = .ok specs ↔ SpellList items specs := by
  induction items generalizing specs with
  | nil =>
    constructor
    · intro h
      cases h
      exact .nil
    · rintro ⟨⟩
      rfl
  | cons item items ih =>
    -- A blank item is skipped, any other one is read.
    by_cases hblank : Text.allBlank item = true
    · rw [readItems_cons_blank hblank, ih]
      constructor
      · exact .blank hblank
      · intro h
        cases h with
        | blank _ hrest => exact hrest
        | entry hitem _ => exact absurd hblank hitem.solid
    · rw [readItems_cons_solid hblank]
      constructor
      · intro h
        cases hspec : spec? item with
        | none =>
          rw [hspec] at h
          cases h
        | some spec =>
          cases hrest : readItems items with
          | error fault =>
            rw [hspec, hrest] at h
            cases h
          | ok rest =>
            rw [hspec, hrest] at h
            cases h
            exact .entry (spec?_eq_some_iff.mp hspec) (ih.mp hrest)
      · intro h
        cases h with
        | blank hitem _ => exact absurd hitem hblank
        | entry hitem hrest =>
          rw [spec?_eq_some_iff.mpr hitem, ih.mpr hrest]
          rfl

/-- Where no list is read, the first item that is not sound is named. -/
theorem readItems_eq_error_iff {items : List (List Char)} {fault : ListingError} :
    readItems items = .error fault ↔
      ∃ item, FirstFault items item ∧ fault = .invalidEntry (String.ofList (Text.trim item)) := by
  induction items with
  | nil =>
    refine iff_of_false (fun h => nomatch h) ?_
    rintro ⟨item, ⟨before, after, hsplit, -⟩, -⟩
    cases before <;> cases hsplit
  | cons first rest ih =>
    by_cases hblank : Text.allBlank first = true
    · simp only [readItems_cons_blank hblank, ih, firstFault_cons_of_sound (.inl hblank)]
    · rw [readItems_cons_solid hblank]
      cases hspec : spec? first with
      | some spec =>
        have hsound : Sound first := .inr ⟨spec, spec?_eq_some_iff.mp hspec⟩
        simp only [firstFault_cons_of_sound hsound, ← ih]
        cases readItems rest <;> simp [Except.map]
      | none =>
        have hfault : ¬Sound first := by
          rintro (h | ⟨spec, h⟩)
          · exact hblank h
          · rw [spec?_eq_some_iff.mpr h] at hspec
            cases hspec
        simp only [firstFault_cons_of_not_sound hfault, exists_eq_left, Except.error.injEq]
        exact eq_comm

/-- A list is read if and only if all items are sound. -/
theorem exists_readItems_iff {items : List (List Char)} :
    (∃ specs, readItems items = .ok specs) ↔ ∀ item ∈ items, Sound item := by
  constructor
  · rintro ⟨specs, h⟩
    induction readItems_eq_ok_iff.mp h with
    | nil => exact List.forall_mem_nil _
    | blank hitem hrest ih =>
      exact List.forall_mem_cons.mpr ⟨.inl hitem, ih (readItems_eq_ok_iff.mpr hrest)⟩
    | entry hitem hrest ih =>
      exact List.forall_mem_cons.mpr ⟨.inr ⟨_, hitem⟩, ih (readItems_eq_ok_iff.mpr hrest)⟩
  · intro h
    cases hread : readItems items with
    | ok specs => exact ⟨specs, rfl⟩
    | error fault =>
      obtain ⟨item, ⟨before, after, rfl, -, hfault⟩, -⟩ := readItems_eq_error_iff.mp hread
      exact absurd (h item (List.mem_append_right _ List.mem_cons_self)) hfault

/-! ## Texts -/

/-- The items of a host list hold no commas but those in the names of its hosts. -/
theorem SpellList.clean {items : List (List Char)} {specs : List HostSpec}
    (h : SpellList items specs) (hhosts : ∀ spec ∈ specs, ',' ∉ spec.host.toList) :
    ∀ item ∈ items, ',' ∉ item := by
  induction h with
  | nil => exact List.forall_mem_nil _
  | blank hitem _ ih =>
    exact List.forall_mem_cons.mpr ⟨Text.not_mem_of_allBlank hitem (by decide), ih hhosts⟩
  | @entry item spec items specs hitem _ ih =>
    obtain ⟨hhost, hrest⟩ := List.forall_mem_cons.mp hhosts
    refine List.forall_mem_cons.mpr ⟨?_, ih hrest⟩
    obtain ⟨role, host, port, number, rfl, hrole, hpadded, -, hport, hnumeral, -⟩ := hitem
    have hroleClean : ',' ∉ role := hrole.not_mem (by decide) (by cases spec.role <;> decide)
    have hhostClean : ',' ∉ host := mt (hpadded.mem_iff (by decide)).mp hhost
    have hportClean : ',' ∉ port :=
      mt (hport.mem_iff (by decide)).mp (hnumeral.not_mem (by decide) (by decide))
    simp [hroleClean, hhostClean, hportClean]

/-- The text of an entry spells it. -/
theorem spells_text {spec : HostSpec} (hhost : Text.Field [':'] spec.host)
    (hport : spec.port < portBound) : Spells (spec.role.text ++ ":" ++ spec.text).toList spec := by
  refine ⟨spec.role.text.toList, spec.host.toList, (toString spec.port).toList,
    (toString spec.port).toList, ?_, ⟨_, Text.padded_self _, ?_⟩, Text.padded_self _, hhost,
    Text.padded_self _, Text.numeral_toString spec.port, hport⟩
  · simp [HostSpec.text, String.toList_append]
  · cases spec.role <;> decide

/-- Items that spell a list are read as this list when they are joined with commas. -/
theorem parse_joined {items : List (List Char)} {specs : List HostSpec}
    (h : SpellList items specs) (hhosts : ∀ spec ∈ specs, ',' ∉ spec.host.toList) :
    parse (String.ofList ([','].intercalate items)) = .ok specs := by
  rw [parse_eq_readItems, String.toList_ofList]
  by_cases hnil : items = []
  · subst hnil
    cases h
    rfl
  · rw [Text.cut_iff.mp ⟨rfl, h.clean hhosts, hnil⟩, readItems_eq_ok_iff]
    exact h

/-- The text of a host list, its entries between commas. -/
def text (specs : List HostSpec) : String :=
  ",".intercalate (specs.map fun spec => spec.role.text ++ ":" ++ spec.text)

/-- The text of a list spells the list. -/
theorem spellList_text {specs : List HostSpec}
    (h : ∀ spec ∈ specs, Text.Field [':'] spec.host ∧ spec.port < portBound) :
    SpellList (specs.map fun spec => (spec.role.text ++ ":" ++ spec.text).toList) specs := by
  induction specs with
  | nil => exact .nil
  | cons spec specs ih =>
    obtain ⟨⟨hhost, hport⟩, hrest⟩ := List.forall_mem_cons.mp h
    exact .entry (spells_text hhost hport) (ih hrest)

/-- A host list is read from its text. -/
theorem parse_text {specs : List HostSpec}
    (h : ∀ spec ∈ specs, Text.Field [',', ':'] spec.host ∧ spec.port < portBound) :
    parse (text specs) = .ok specs := by
  have htext : text specs = String.ofList ([','].intercalate
      (specs.map fun spec => (spec.role.text ++ ":" ++ spec.text).toList)) := by
    rw [← String.toList_inj, String.toList_ofList, text, String.toList_intercalate, List.map_map]
    rfl
  rw [htext]
  refine parse_joined (spellList_text fun spec hspec => ?_) fun spec hspec => ?_
  · exact ⟨(h spec hspec).1.mono (List.subset_cons_self _ _), (h spec hspec).2⟩
  · exact (h spec hspec).1.clean ',' List.mem_cons_self

/-- From a text that spells a list of hosts whose names hold no comma, that list is read, however
roles and ports are spelled and wherever blank characters and blank items stand. One such text is
the plain one, for every list of hosts that can be named. Any text at all is cut into items at its
commas, and the list that is read from it is the one that the items spell. There is one if and only
if every item is blank or spells an entry; otherwise there is no list but the name of the first item
that does neither, without the blank characters around it. -/
theorem parse_exact :
    (∀ items specs, SpellList items specs → (∀ spec ∈ specs, ',' ∉ spec.host.toList) →
      parse (String.ofList ([','].intercalate items)) = .ok specs) ∧
    (∀ specs : List HostSpec,
      (∀ spec ∈ specs, Text.Field [',', ':'] spec.host ∧ spec.port < portBound) →
      parse (text specs) = .ok specs) ∧
    ∀ raw, ∃ items, Text.Cut ',' raw.toList items ∧
      (∀ specs, parse raw = .ok specs ↔ SpellList items specs) ∧
      ((∃ specs, parse raw = .ok specs) ↔ ∀ item ∈ items, Sound item) ∧
      ∀ fault, parse raw = .error fault ↔
        ∃ item, FirstFault items item ∧
          fault = .invalidEntry (String.ofList (Text.trim item)) := by
  refine ⟨fun items specs => parse_joined, fun specs => parse_text, fun raw => ?_⟩
  exact ⟨_, Text.cut_pieces raw.toList, fun specs => readItems_eq_ok_iff, exists_readItems_iff,
    fun fault => readItems_eq_error_iff⟩

/-- Roles in odd cases, wide blanks, a port with a sign and leading zeros and a blank entry in a
list that is read, and a list in which two entries are wrong. -/
theorem parse_exact_padded :
    parse "\u3000reaDer : db 1\t:+05433,\n,WRITER:a:65535" =
        .ok [⟨"db 1", 5433, .reader⟩, ⟨"a", 65535, .writer⟩] ∧
      parse "writer:a:1, reader:b:65536 ,leader:c:1" = .error (.invalidEntry "reader:b:65536") := by
  obtain ⟨hjoined, -, hread⟩ := parse_exact
  constructor
  · refine hjoined ["\u3000reaDer : db 1\t:+05433".toList, "\n".toList, "WRITER:a:65535".toList] _
      (.entry (spec?_eq_some_iff.mp ?_) (.blank ?_ (.entry (spec?_eq_some_iff.mp ?_) .nil))) ?_
    all_goals decide +kernel
  · obtain ⟨items, hcut, -, -, hfault⟩ := hread "writer:a:1, reader:b:65536 ,leader:c:1"
    have hitems : items = ["writer:a:1".toList, " reader:b:65536 ".toList, "leader:c:1".toList] :=
      (Text.cut_iff.mp hcut).symm.trans (by decide)
    refine (hfault _).mpr ⟨" reader:b:65536 ".toList, ⟨["writer:a:1".toList], ["leader:c:1".toList],
      hitems, ?_, ?_⟩, by decide⟩
    · rw [List.forall_mem_singleton]
      decide +kernel
    · decide +kernel

end Listing

end ClusterGate
