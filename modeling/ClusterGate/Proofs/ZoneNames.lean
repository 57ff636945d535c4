import ClusterGate.Proofs.Trimming
import ClusterGate.Zone.Settings

/-!
# Zones that host names show

Where the host map has no entry for a host its name decides, and of the name the segments between
the dots. This module says what a zone name is (`Zone.Spelled`) and which segment counts: the first
one that is a zone name (`Zone.ofHostName_eq_some_iff`). So other segments can be put in and taken
out without making a difference, and so can any segments behind that one
(`Zone.ofHostName_between`). All of it is gathered in `ZoneSettings.resolve_exact`.
-/

namespace ClusterGate

namespace Zone

/-! ## Zone names -/

def IsSmall (c : Char) : Prop := 'a' ≤ c ∧ c ≤ 'z'

def IsDigit (c : Char) : Prop := '0' ≤ c ∧ c ≤ '9'

/-- A zone name, such as `us-east-1a`: two small letters, a region of at least one small letter
between hyphens, a digit and a small letter, and nothing else. -/
inductive Spelled : List Char → Prop
  | name {first second digit letter : Char} {region : List Char} (hfirst : IsSmall first)
    (hsecond : IsSmall second) (hne : region ≠ []) (hregion : ∀ c ∈ region, IsSmall c)
    (hdigit : IsDigit digit) (hletter : IsSmall letter) :
    Spelled (first :: second :: '-' :: (region ++ ['-', digit, letter]))

theorem isLower_iff {c : Char} : c.isLower = true ↔ IsSmall c :=
  Bool.and_eq_true_iff.trans (and_congr decide_eq_true_iff decide_eq_true_iff)

theorem isDigit_iff {c : Char} : c.isDigit = true ↔ IsDigit c :=
  Bool.and_eq_true_iff.trans (and_congr decide_eq_true_iff decide_eq_true_iff)

theorem isZoneTail_iff {cs : List Char} :
    isZoneTail cs = true ↔ ∃ region digit letter, cs = '-' :: (region ++ ['-', digit, letter]) ∧
      region ≠ [] ∧ (∀ c ∈ region, IsSmall c) ∧ IsDigit digit ∧ IsSmall letter := by
  constructor
  · intro h
    unfold isZoneTail at h
    split at h
    · next r =>
      obtain ⟨hne, hend⟩ := Bool.and_eq_true_iff.mp h
      split at hend
      · next digit letter hdrop =>
        obtain ⟨hdigit, hletter⟩ := Bool.and_eq_true_iff.mp hend
        refine ⟨r.takeWhile Char.isLower, digit, letter, ?_, by simpa using hne, fun c hc => ?_,
          isDigit_iff.mp hdigit, isLower_iff.mp hletter⟩
        · rw [← hdrop, List.takeWhile_append_dropWhile]
        · exact isLower_iff.mp (List.mem_takeWhile_imp hc)
      · cases hend
    · cases h
  · rintro ⟨region, digit, letter, rfl, hne, hregion, hdigit, hletter⟩
    -- The region ends where the letters do, since a hyphen is none.
    have hlower : ∀ c ∈ region, c.isLower = true := fun c hc => isLower_iff.mpr (hregion c hc)
    have htake : (region ++ ['-', digit, letter]).takeWhile Char.isLower = region := by
      rw [List.takeWhile_append_of_pos hlower, List.takeWhile_cons_of_neg (by decide),
        List.append_nil]
    have hdrop :
        (region ++ ['-', digit, letter]).dropWhile Char.isLower = ['-', digit, letter] := by
      rw [List.dropWhile_append_of_pos hlower, List.dropWhile_cons_of_neg (by decide)]
    rw [isZoneTail, htake, hdrop, Bool.and_eq_true]
    exact ⟨by simpa using hne,
      Bool.and_eq_true_iff.mpr ⟨isDigit_iff.mpr hdigit, isLower_iff.mpr hletter⟩⟩

/-- What is taken for a zone name is spelled as one. -/
theorem isZoneName_iff {cs : List Char} : isZoneName cs = true ↔ Spelled cs := by
  constructor
  · intro h
    unfold isZoneName at h
    split at h
    · next first second r =>
      simp only [Bool.and_eq_true] at h
      obtain ⟨⟨hfirst, hsecond⟩, htail⟩ := h
      obtain ⟨region, digit, letter, rfl, hne, hregion, hdigit, hletter⟩ := isZoneTail_iff.mp htail
      exact .name (isLower_iff.mp hfirst) (isLower_iff.mp hsecond) hne hregion hdigit hletter
    · cases h
  · intro h
    cases h with
    | name hfirst hsecond hne hregion hdigit hletter =>
      simp only [isZoneName, Bool.and_eq_true]
      exact ⟨⟨isLower_iff.mpr hfirst, isLower_iff.mpr hsecond⟩,
        isZoneTail_iff.mpr ⟨_, _, _, rfl, hne, hregion, hdigit, hletter⟩⟩

instance (cs : List Char) : Decidable (Spelled cs) := decidable_of_iff _ isZoneName_iff

/-! ## The segment that counts -/

def firstSpelled? (segments : List (List Char)) : Option (List Char) :=
  segments.find? isZoneName

section
variable {segments : List (List Char)}

/-- The segment that counts is a zone name, and none in front of it is. -/
theorem firstSpelled?_eq_some_iff {name : List Char} :
    firstSpelled? segments = some name ↔
      Spelled name ∧ ∃ before after, segments = before ++ name :: after ∧
        ∀ segment ∈ before, ¬ Spelled segment := by
  simp only [firstSpelled?, List.find?_eq_some_iff_append, isZoneName_iff, Bool.not_eq_true',
    Bool.eq_false_iff, ne_eq]

theorem firstSpelled?_eq_none_iff :
    firstSpelled? segments = none ↔ ∀ segment ∈ segments, ¬ Spelled segment := by
  simp only [firstSpelled?, List.find?_eq_none, isZoneName_iff]

/-- Segments make no difference that are no zone names, or that stand behind one. -/
theorem firstSpelled?_between {front extra back : List (List Char)}
    (h : (∀ segment ∈ extra, ¬ Spelled segment) ∨ ∃ segment ∈ front, Spelled segment) :
    firstSpelled? (front ++ extra ++ back) = firstSpelled? (front ++ back) := by
  simp only [firstSpelled?, List.find?_append]
  rcases h with hextra | ⟨segment, hmem, hspelled⟩
  · have hnone : extra.find? isZoneName = none := firstSpelled?_eq_none_iff.mpr hextra
    rw [hnone, Option.or_none]
  · cases hfront : front.find? isZoneName with
    | none => exact absurd hspelled (firstSpelled?_eq_none_iff.mp hfront segment hmem)
    | some name => simp only [Option.some_or]

theorem ofHostName_eq (host : String) :
    ofHostName host = (firstSpelled? (Text.pieces '.' host.toList)).map String.ofList := rfl

/-- The name that is joined from some segments. -/
def hostName (segments : List (List Char)) : String := .ofList (['.'].intercalate segments)

/-- A name that is joined from segments without dots is cut into the same segments again. -/
theorem ofHostName_hostName (h : ∀ segment ∈ segments, '.' ∉ segment) :
    ofHostName (hostName segments) = (firstSpelled? segments).map String.ofList := by
  rw [ofHostName_eq, hostName, String.toList_ofList]
  by_cases hne : segments = []
  · -- The empty name has one segment, which is empty.
    subst hne
    rfl
  · rw [Text.cut_iff.mp ⟨rfl, h, hne⟩]

end

/-! ## Host names -/

theorem map_ofList_eq_some_iff {found : Option (List Char)} {zone : String} :
    found.map String.ofList = some zone ↔ found = some zone.toList := by
  rw [Option.map_eq_some_iff]
  constructor
  · rintro ⟨name, rfl, rfl⟩
    rw [String.toList_ofList]
  · intro h
    exact ⟨zone.toList, h, String.ofList_toList⟩

theorem ofHostName_eq_some_iff {host zone : String} :
    ofHostName host = some zone ↔
      Spelled zone.toList ∧
        ∃ before after, Text.pieces '.' host.toList = before ++ zone.toList :: after ∧
          ∀ segment ∈ before, ¬ Spelled segment := by
  rw [ofHostName_eq, map_ofList_eq_some_iff, firstSpelled?_eq_some_iff]

theorem ofHostName_eq_none_iff {host : String} :
    ofHostName host = none ↔ ∀ segment ∈ Text.pieces '.' host.toList, ¬ Spelled segment := by
  rw [ofHostName_eq, Option.map_eq_none_iff, firstSpelled?_eq_none_iff]

theorem ofHostName_between {front extra back : List (List Char)}
    (hclean : ∀ segment ∈ front ++ extra ++ back, '.' ∉ segment)
    (h : (∀ segment ∈ extra, ¬ Spelled segment) ∨ ∃ segment ∈ front, Spelled segment) :
    ofHostName (hostName (front ++ extra ++ back)) = ofHostName (hostName (front ++ back)) := by
  have hrest : ∀ segment ∈ front ++ back, '.' ∉ segment := by
    intro segment hmem
    refine hclean segment ?_
    rcases List.mem_append.mp hmem with hmem | hmem
    · exact List.mem_append_left _ (List.mem_append_left _ hmem)
    · exact List.mem_append_right _ hmem
  rw [ofHostName_hostName hclean, ofHostName_hostName hrest, firstSpelled?_between h]

/-- A zone name has no dots, so it shows itself. -/
theorem ofHostName_zone {host zone : String} (h : ofHostName host = some zone) :
    ofHostName zone = some zone := by
  obtain ⟨hspelled, before, after, hsegments, -⟩ := ofHostName_eq_some_iff.mp h
  have hmem : zone.toList ∈ Text.pieces '.' host.toList := by
    rw [hsegments]
    exact List.mem_append_right _ List.mem_cons_self
  refine ofHostName_eq_some_iff.mpr ⟨hspelled, [], [], ?_, fun segment hsegment => nomatch hsegment⟩
  exact Text.pieces_of_not_mem (Text.not_mem_of_mem_pieces hmem)

end Zone

namespace ZoneSettings

open Zone (Spelled ofHostName hostName)

/-- The zone of a host, under any settings. The entry of the host map for this host counts if there
is one. Otherwise the name of the host, which is cut into segments at every dot, is searched for the
first segment that is a zone name, and there is no zone if none is. Segments can be added to a name
or taken from it, as many as one likes, without making a difference to what it shows, if none of
them is a zone name or if one stands in front of them. A zone that is shown is shown by itself. -/
theorem resolve_exact (settings : ZoneSettings) (host : String) :
    let segments := Text.pieces '.' host.toList
    Text.Cut '.' host.toList segments ∧
      (∀ zone, settings.hosts.get? host = some zone → settings.resolve host = some zone) ∧
      (settings.hosts.get? host = .none →
        (∀ zone, settings.resolve host = some zone ↔
          Spelled zone.toList ∧ ∃ before after, segments = before ++ zone.toList :: after ∧
            ∀ segment ∈ before, ¬ Spelled segment) ∧
        (settings.resolve host = .none ↔ ∀ segment ∈ segments, ¬ Spelled segment)) ∧
      (∀ front extra back : List (List Char),
        (∀ segment ∈ front ++ extra ++ back, '.' ∉ segment) →
        ((∀ segment ∈ extra, ¬ Spelled segment) ∨ ∃ segment ∈ front, Spelled segment) →
          ofHostName (hostName (front ++ extra ++ back)) = ofHostName (hostName (front ++ back))) ∧
      ∀ zone, ofHostName host = some zone → ofHostName zone = some zone := by
  intro segments
  refine ⟨Text.cut_pieces _, fun zone hgiven => ?_, fun hnone => ?_,
    fun front extra back => Zone.ofHostName_between, fun zone => Zone.ofHostName_zone⟩
  · rw [resolve, hgiven, Option.some_or]
  · rw [resolve, hnone, Option.none_or]
    exact ⟨fun zone => Zone.ofHostName_eq_some_iff, Zone.ofHostName_eq_none_iff⟩

/-- A host map with an entry for one host. -/
def mappedHost : ZoneSettings := .ofText .none (some "db.us-east-1a.net:custom")

/-- The entry counts for its own host only. The name of another host shows the first zone in it; a
region and capital letters are no zone names. -/
theorem resolve_exact_mappedHost :
    mappedHost.resolve "db.us-east-1a.net" = some "custom" ∧
      mappedHost.resolve "db..us-east-1.us-west-2b.us-east-1a" = some "us-west-2b" ∧
      mappedHost.resolve "db.US-EAST-1A.net" = .none := by
  obtain ⟨-, hgiven, -⟩ := resolve_exact mappedHost "db.us-east-1a.net"
  obtain ⟨-, -, hshown, -⟩ := resolve_exact mappedHost "db..us-east-1.us-west-2b.us-east-1a"
  obtain ⟨-, -, hcapital, -⟩ := resolve_exact mappedHost "db.US-EAST-1A.net"
  refine ⟨hgiven "custom" (by decide +kernel), ?_, ?_⟩
  · refine ((hshown (by decide +kernel)).1 "us-west-2b").mpr ⟨by decide +kernel, ?_⟩
    exact ⟨["db".toList, [], "us-east-1".toList], ["us-east-1a".toList], by decide +kernel,
      by decide +kernel⟩
  · exact (hcapital (by decide +kernel)).2.mpr (by decide +kernel)

end ZoneSettings

end ClusterGate
