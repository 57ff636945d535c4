import ClusterGate.Cli.Task
import ClusterGate.Proofs.AfterClose
import ClusterGate.Proofs.HostLists
import ClusterGate.Proofs.ZoneCoherence
import ClusterGate.Proofs.ZoneNames

/-!
# Ways to give a preferred zone

A preferred zone comes from a configuration document, from an option of the command line, from the
properties that a configuration is made of, or from those of a connect. Properties lose the blank
characters at their ends. A document and an option keep them, and are only asked whether there is
anything else.

The zones of hosts are tight, whether a host map gives them or a host name shows them, and blank
characters have no case. So a preferred zone with a blank at one of its ends is the zone of no host,
and this is all that the difference comes to (`statusOf_ofText`, `writersStatus_ofText`).
-/

namespace ClusterGate

/-! ## Statuses -/

/-- How the zone of a host compares with the preferred zone, names left out. -/
inductive PreferenceStatus
  | notConfigured
  | preferred
  | notPreferred
  | unknown
  deriving DecidableEq, Repr

def ZonePreference.status : ZonePreference → PreferenceStatus
  | notConfigured => .notConfigured
  | preferred _ => .preferred
  | notPreferred _ _ => .notPreferred
  | unknown _ => .unknown

/-- Whether a topology has a writer in the preferred zone, names left out. -/
inductive AvailabilityStatus
  | notConfigured
  | available
  | unavailable
  deriving DecidableEq, Repr

def WriterAvailability.status : WriterAvailability → AvailabilityStatus
  | notConfigured => .notConfigured
  | available _ _ => .available
  | unavailable _ => .unavailable

namespace ZoneSettings

/-- The status of a host under the settings. -/
def statusOf (settings : ZoneSettings) (host : String) : PreferenceStatus :=
  (settings.preference (settings.resolve host)).status

/-- The status of the writers of a host list under the settings. -/
def writersStatus (settings : ZoneSettings) (hosts : List HostSpec) : AvailabilityStatus :=
  (settings.writerAvailability hosts).status

end ZoneSettings

/-! ## Zones are tight -/

namespace Text

theorem isBlank_of_isLower {c : Char} (h : c.isLower = true) : isBlank c = false := by
  obtain ⟨hlow, hhigh⟩ := Bool.and_eq_true_iff.mp h
  have hlow : 97 ≤ c.toNat := of_decide_eq_true hlow
  have hhigh : c.toNat ≤ 122 := of_decide_eq_true hhigh
  exact isBlank_of_between (by omega) (by omega)

theorem isBlank_toLower {c : Char} (h : isBlank c = false) : isBlank c.toLower = false := by
  by_cases hupper : c.val ≥ 'A'.val ∧ c.val ≤ 'Z'.val
  · have hlow : 65 ≤ c.toNat := hupper.1
    have hhigh : c.toNat ≤ 90 := hupper.2
    have hnat : (c.val + ('a'.val - 'A'.val)).toNat = c.toNat + 32 := by
      rw [UInt32.toNat_add]
      exact Nat.mod_eq_of_lt (show c.toNat + 32 < 2 ^ 32 by omega)
    rw [show c.toLower = ⟨c.val + ('a'.val - 'A'.val), _⟩ from dif_pos hupper]
    refine isBlank_of_between ?_ ?_
    · show 0x20 < (c.val + ('a'.val - 'A'.val)).toNat
      omega
    · show (c.val + ('a'.val - 'A'.val)).toNat < 0x80
      omega
  · rw [show c.toLower = c from dif_neg hupper]
    exact h

theorem Tight.map_toLower {cs : List Char} (h : Tight cs) : Tight (cs.map Char.toLower) := by
  have hkept {found : Option Char} (h : found.any isBlank = false) :
      (found.map Char.toLower).any isBlank = false := by
    cases found with
    | none => rfl
    | some c => exact isBlank_toLower h
  rw [Tight, List.head?_map, List.getLast?_map]
  exact ⟨hkept h.1, hkept h.2⟩

/-- A text is left as it is exactly if no blank character stands at its ends. -/
theorem trimmed_eq_self {s : String} : trimmed s = s ↔ Tight s.toList := by
  constructor
  · intro h
    rw [← h, trimmed, String.toList_ofList]
    exact tight_trim s.toList
  · intro h
    rw [trimmed, (padded_self s.toList).trim h, String.ofList_toList]

/-- A text without blank characters at its ends does not differ in case only from one with some. -/
theorem not_sameIgnoringCase {s padded : String} (hs : Tight s.toList)
    (hpadded : trimmed padded ≠ padded) : sameIgnoringCase s padded = false := by
  refine Bool.eq_false_iff.mpr fun hsame => hpadded (trimmed_eq_self.mpr ?_)
  refine Tight.of_map_toLower ?_
  rw [← sameIgnoringCase_iff.mp hsame]
  exact hs.map_toLower

end Text

namespace Zone

/-- A zone name begins and ends with a letter. -/
theorem Spelled.tight {cs : List Char} (h : Spelled cs) : Text.Tight cs := by
  cases h with
  | @name first second digit letter region hfirst _ _ _ _ hletter =>
    refine ⟨Text.isBlank_of_isLower (isLower_iff.mpr hfirst), ?_⟩
    have hlast : first :: second :: '-' :: (region ++ ['-', digit, letter]) =
        (first :: second :: '-' :: (region ++ ['-', digit])) ++ [letter] := by simp
    rw [hlast, List.getLast?_concat]
    exact Text.isBlank_of_isLower (isLower_iff.mpr hletter)

end Zone

namespace ZoneSettings

/-- No zone of a host has blank characters at its ends, wherever it comes from. -/
theorem tight_of_resolve {preferred map : Option String} {host zone : String}
    (h : (ofText preferred map).resolve host = some zone) : Text.Tight zone.toList := by
  rw [resolve, Option.or_eq_some_iff] at h
  rcases h with hgiven | ⟨-, hshown⟩
  · rw [ofText] at hgiven
    cases hmap : map.bind unlessBlank with
    | none =>
      rw [hmap] at hgiven
      cases hgiven
    | some raw =>
      rw [hmap] at hgiven
      exact (ZoneMap.parse_fields raw _ (Dict.mem_entries_of_get? hgiven)).2.tight
  · exact (Zone.ofHostName_eq_some_iff.mp hshown).1.tight

/-! ## What blank characters around a preferred zone do -/

theorem nonBlank?_eq (s : String) : Text.nonBlank? s = (unlessBlank s).map Text.trimmed := by
  rw [Text.nonBlank?, unlessBlank]
  split <;> rfl

theorem unlessBlank_trimmed (s : String) : unlessBlank (Text.trimmed s) = Text.nonBlank? s := by
  rw [unlessBlank, Text.nonBlank?, Text.trimmed, String.toList_ofList, Text.allBlank_trim]

theorem nonBlank?_bind_unlessBlank (s : String) :
    (Text.nonBlank? s).bind unlessBlank = Text.nonBlank? s := by
  rw [Text.nonBlank?]
  split
  · rfl
  · next hblank => rw [Option.bind_some, unlessBlank_trimmed, Text.nonBlank?, if_neg hblank]

theorem preferred_ofText (s : String) (map : Option String) :
    (ofText (some s) map).preferred = unlessBlank s := by
  rw [ofText, Option.bind_some]

/-- The preferred zone plays no part in resolving. -/
theorem resolve_ofText (preferred preferred' map : Option String) :
    (ofText preferred map).resolve = (ofText preferred' map).resolve := by
  funext host
  rw [resolve, resolve, ofText, ofText]

theorem statusOf_eq (settings : ZoneSettings) (host : String) :
    settings.statusOf host =
      settings.preferred.elim .notConfigured fun wanted =>
        (settings.resolve host).elim .unknown fun zone =>
          if Text.sameIgnoringCase zone wanted then .preferred else .notPreferred := by
  rw [statusOf]
  unfold preference
  cases settings.preferred with
  | none => rfl
  | some wanted =>
    cases settings.resolve host with
    | none => rfl
    | some zone =>
      simp only [Option.elim_some]
      split <;> rfl

theorem writersStatus_eq (settings : ZoneSettings) (hosts : List HostSpec) :
    settings.writersStatus hosts =
      settings.preferred.elim .notConfigured fun wanted =>
        if hosts.any (settings.isPreferredWriter wanted) then .available else .unavailable := by
  rw [writersStatus]
  unfold writerAvailability
  cases settings.preferred with
  | none => rfl
  | some wanted =>
    simp only [Option.elim_some]
    cases hwriters : hosts.filter (settings.isPreferredWriter wanted) with
    | nil =>
      have hnone : hosts.any (settings.isPreferredWriter wanted) = false :=
        List.any_eq_false.mpr (List.filter_eq_nil_iff.mp hwriters)
      rw [hnone]
      rfl
    | cons first rest =>
      have hfirst : first ∈ hosts.filter (settings.isPreferredWriter wanted) := by
        rw [hwriters]
        exact List.mem_cons_self
      have hsome : hosts.any (settings.isPreferredWriter wanted) = true :=
        List.any_eq_true.mpr ⟨first, List.mem_filter.mp hfirst⟩
      rw [hsome]
      rfl

section
variable (wanted : String) (map : Option String)

/-- With the blank characters that a preferred zone was given with, hosts that lie in it count as
outside of it. Nothing else is different. -/
theorem statusOf_ofText (host : String) :
    (ofText (some wanted) map).statusOf host =
      if Text.trimmed wanted ≠ wanted ∧
          (ofText (some (Text.trimmed wanted)) map).statusOf host = .preferred then .notPreferred
      else (ofText (some (Text.trimmed wanted)) map).statusOf host := by
  by_cases htight : Text.trimmed wanted = wanted
  · rw [htight, if_neg fun h => h.1 rfl]
  · rw [statusOf_eq, statusOf_eq, preferred_ofText, preferred_ofText, unlessBlank_trimmed,
      Text.nonBlank?, resolve_ofText (some (Text.trimmed wanted)) (some wanted), unlessBlank]
    by_cases hblank : Text.allBlank wanted.toList = true
    · simp [hblank]
    · cases hzone : (ofText (some wanted) map).resolve host with
      | none => simp [hblank]
      | some zone =>
        have hoff := Text.not_sameIgnoringCase (tight_of_resolve hzone) htight
        simp only [if_neg hblank, Option.elim_some, hoff, Bool.false_eq_true, if_false]
        cases Text.sameIgnoringCase zone (Text.trimmed wanted) <;> simp [htight]

/-- No writer is preferred under a zone with blank characters at its ends. -/
theorem isPreferredWriter_of_padded (htight : Text.trimmed wanted ≠ wanted) (spec : HostSpec) :
    (ofText (some wanted) map).isPreferredWriter wanted spec = false := by
  rw [isPreferredWriter]
  cases hzone : (ofText (some wanted) map).resolve spec.host with
  | none => simp
  | some zone =>
    rw [Option.any_some, Text.not_sameIgnoringCase (tight_of_resolve hzone) htight, Bool.and_false]

/-- With the blank characters that a preferred zone was given with, no writer is available in it.
Nothing else is different. -/
theorem writersStatus_ofText (hosts : List HostSpec) :
    (ofText (some wanted) map).writersStatus hosts =
      if Text.trimmed wanted ≠ wanted ∧
          (ofText (some (Text.trimmed wanted)) map).writersStatus hosts = .available then
        .unavailable
      else (ofText (some (Text.trimmed wanted)) map).writersStatus hosts := by
  by_cases htight : Text.trimmed wanted = wanted
  · rw [htight, if_neg fun h => h.1 rfl]
  · have hoff : hosts.any ((ofText (some wanted) map).isPreferredWriter wanted) = false :=
      List.any_eq_false.mpr fun spec _ => by simp [isPreferredWriter_of_padded wanted map htight]
    rw [writersStatus_eq, writersStatus_eq, preferred_ofText, preferred_ofText,
      unlessBlank_trimmed, Text.nonBlank?, unlessBlank]
    by_cases hblank : Text.allBlank wanted.toList = true
    · simp [hblank]
    · simp only [if_neg hblank, Option.elim_some, hoff, Bool.false_eq_true, if_false]
      split <;> simp [htight]

end

/-! ## Properties -/

theorem parse_effective (map : Option String) :
    ((map.bind Text.nonBlank?).bind unlessBlank).elim ∅ ZoneMap.parse =
      (map.bind unlessBlank).elim ∅ ZoneMap.parse := by
  cases map with
  | none => rfl
  | some raw =>
    rw [Option.bind_some, Option.bind_some, nonBlank?_bind_unlessBlank, nonBlank?_eq]
    cases unlessBlank raw with
    | none => rfl
    | some given => rw [Option.map_some, Option.elim_some, Option.elim_some, ZoneMap.parse_trimmed]

theorem ofText_nonBlank? (wanted : String) (map : Option String) :
    ofText (Text.nonBlank? wanted) (map.bind Text.nonBlank?) =
      ⟨Text.nonBlank? wanted, ((map.bind Text.nonBlank?).map ZoneMap.parse).getD ∅⟩ := by
  rw [ofText, nonBlank?_bind_unlessBlank]
  cases map with
  | none => rfl
  | some raw =>
    rw [Option.bind_some, nonBlank?_bind_unlessBlank]
    cases Text.nonBlank? raw <;> rfl

/-- What properties give are the settings without the outer blank characters. -/
theorem ofText_effective (wanted : String) (map : Option String) :
    ofText (Text.nonBlank? wanted) (map.bind Text.nonBlank?) =
      ofText (some (Text.trimmed wanted)) map := by
  rw [ofText, ofText, parse_effective, nonBlank?_bind_unlessBlank, Option.bind_some,
    unlessBlank_trimmed]

end ZoneSettings

/-! ## Documents -/

namespace Config

/-- The text that a document gives for a setting, if it is quoted or in a block. -/
def written? (text name : String) : Option String := do
  let document ← (Yaml.Document.ofText text).toOption.join
  let entries ← (entriesOf document).toOption
  let (_, node) ← entries.find? (·.1 = name)
  let s ← (scalarOf document node).toOption
  if s.style = .plain then none else some s.text

/-- A setting that is given is read from the one place where it is. -/
theorem setting_eq_ok {α : Type} {entries : List (String × Yaml.Node)} {name : String}
    {default value : α} {read : Yaml.Node → Except LoadError α} {e : String × Yaml.Node}
    (hfound : entries.find? (·.1 = name) = some e)
    (h : setting entries name default read = .ok value) : read e.2 = .ok value := by
  rw [setting] at h
  rw [← List.head?_filter] at hfound
  split at h
  · next hnone => simp [hnone] at hfound
  · next first hone =>
    rw [hone] at hfound
    cases hfound
    exact h
  · cases h

theorem optionalTextOf_quoted {document : Yaml.Document} {node : Yaml.Node} {s : Yaml.Scalar}
    (hscalar : scalarOf document node = .ok s) (hstyle : s.style ≠ .plain) :
    optionalTextOf document node = .ok (some s.text) := by
  rw [optionalTextOf, hscalar]
  exact if_pos hstyle

theorem eq_ok_of_toOption {ε α : Type} {x : Except ε α} {a : α} (h : x.toOption = some a) :
    x = .ok a := by
  cases x with
  | error e => cases h
  | ok b => exact congrArg Except.ok (Option.some.inj h)

/-- What succeeds does so in each of its steps. -/
theorem exists_of_bind_eq_ok {ε α β : Type} {x : Except ε α} {f : α → Except ε β} {result : β}
    (h : x >>= f = .ok result) : ∃ a, x = .ok a ∧ f a = .ok result := by
  cases x with
  | error e => cases h
  | ok a => exact ⟨a, rfl, h⟩

theorem ofDocument_preferredAz {document : Yaml.Document} {config : Config}
    {entries : List (String × Yaml.Node)} (hentries : entriesOf document = .ok entries)
    (h : ofDocument document = .ok config) :
    setting entries Properties.preferredAz default.preferredAz (optionalTextOf document) =
      .ok config.preferredAz := by
  obtain ⟨read, hread, h⟩ := exists_of_bind_eq_ok h
  cases hentries.symm.trans hread
  obtain ⟨zone, hzone, h⟩ := exists_of_bind_eq_ok h
  obtain ⟨_, -, h⟩ := exists_of_bind_eq_ok h
  obtain ⟨_, -, h⟩ := exists_of_bind_eq_ok h
  obtain ⟨_, -, h⟩ := exists_of_bind_eq_ok h
  cases h
  exact hzone

/-- What a document has in quotes or in a block is taken over as it stands, blank characters
included. -/
theorem preferredAz_of_written {text wanted : String} {config : Config}
    (hconfig : ofText text = .ok config)
    (hwritten : written? text Properties.preferredAz = some wanted) :
    config.preferredAz = some wanted := by
  simp only [written?, Option.bind_eq_bind, Option.bind_eq_some_iff] at hwritten
  obtain ⟨document, hdocument, entries, hentries, ⟨name, node⟩, hfound, s, hscalar, htext⟩ :=
    hwritten
  have htree : Yaml.Document.ofText text = .ok (some document) :=
    eq_ok_of_toOption (Option.join_eq_some_iff.mp hdocument)
  obtain ⟨read, hread, h⟩ := exists_of_bind_eq_ok hconfig
  obtain ⟨checked, hchecked, h⟩ := exists_of_bind_eq_ok h
  obtain ⟨_, -, h⟩ := exists_of_bind_eq_ok h
  cases h
  rw [htree] at hread
  cases hread
  have hsetting :=
    setting_eq_ok hfound (ofDocument_preferredAz (eq_ok_of_toOption hentries) hchecked)
  split at htext
  · cases htext
  · next hstyle =>
    rw [optionalTextOf_quoted (eq_ok_of_toOption hscalar) hstyle, htext] at hsetting
    exact (Except.ok.inj hsetting).symm

end Config

/-! ## Properties of configurations and connects -/

theorem Properties.effective?_of_get? {props : Properties} {key value : String}
    (h : props.get? key = some value) : props.effective? key = Text.nonBlank? value := by
  rw [effective?, h, Option.bind_some]

theorem Config.zones_ofProperties {props : Properties} {wanted : String}
    (h : props.get? Properties.preferredAz = some wanted) :
    (ofProperties props).zones =
      .ofText (some (Text.trimmed wanted)) (props.get? Properties.hostAzMap) := by
  rw [← ZoneSettings.ofText_effective, zones, ofProperties, merge, Properties.effective?_of_get? h]
  simp only [default, Option.or_none]
  rfl

/-- The operation is no connect that gives a zone property. -/
def Operation.KeepsZones {W : Type} (op : Operation W) : Prop :=
  op.given? Properties.preferredAz = none ∧ op.given? Properties.hostAzMap = none

instance {W : Type} (op : Operation W) : Decidable op.KeepsZones :=
  inferInstanceAs (Decidable (_ ∧ _))

namespace Site

variable {W : Type} (b : Backend W)

/-- Only zone properties of connects change the zone settings. -/
theorem zones_after {ops : List (Operation W)} (h : ∀ op ∈ ops, op.KeepsZones) (s : Site W) :
    (after b s ops).gate.tracker.zones = s.gate.tracker.zones := by
  induction ops using List.reverseRecOn with
  | nil => rfl
  | append_singleton ops op ih =>
    obtain ⟨hzone, hmap⟩ := h op (List.mem_append_right _ List.mem_cons_self)
    have hbefore := ih fun earlier hearlier => h earlier (List.mem_append_left _ hearlier)
    rw [after_concat, (zones_perform b op _).1, Tracker.zones_settings, hzone, hmap, ← hbefore]
    rfl

/-- A connect gives zone settings to a gate that has none. -/
theorem zones_connect {s : Site W} (hnone : s.gate.tracker.zones = .ofText none none)
    {props : Properties} {wanted : String}
    (h : props.get? Properties.preferredAz = some wanted) (protocol : String) (host : HostSpec) :
    (perform b (.connect protocol host props) s).state.gate.tracker.zones =
      .ofText (some (Text.trimmed wanted)) (props.get? Properties.hostAzMap) := by
  have hpreferred (given : Option String) :
      (ZoneSettings.ofText none none).preferredAfter given = given := by
    cases given <;> rfl
  rw [(zones_perform b _ s).1, Operation.settings, Tracker.zones_propertyChanges, hnone,
    Properties.effective?_of_get? h, hpreferred, ← ZoneSettings.ofText_effective,
    ZoneSettings.ofText_nonBlank?]
  rfl

/-- A preferred zone may be given in four ways, and which blank characters stand at its ends matters
in two of them. A document and an option of the command line give settings with the zone as it
stands. The properties that a configuration is made of, and those of a connect to a gate that has no
zone settings, give settings with the zone trimmed. Both hold for as long as no connect gives
others. What hosts and writers are under the former is what they are under the latter, but for this:
if there is a blank character at an end of the zone, then a host in it counts as outside of it, and
an available writer as unavailable. -/
theorem preferred_zone_given (wanted : String) (map : Option String) :
    let asGiven := ZoneSettings.ofText (some wanted) map
    let trimmed := ZoneSettings.ofText (some (Text.trimmed wanted)) map
    (∀ text config, Config.ofText text = .ok config →
      Config.written? text Properties.preferredAz = some wanted → config.hostAzMap = map →
      config.zones = asGiven) ∧
    (∀ {S : Type} (server : Postgres.Server S) config servers host hostMap,
      hostMap.or config.hostAzMap = map →
      let given := Cli.zoneConfig config hostMap (some wanted)
      ((Cli.Task.resolveZone host hostMap (some wanted)).run server config servers).result =
        .ok (Cli.zoneReport given host) ∧ given.zones = asGiven) ∧
    (∀ props : Properties, props.get? Properties.preferredAz = some wanted →
      props.get? Properties.hostAzMap = map → (Config.ofProperties props).zones = trimmed) ∧
    (∀ config gate, Gate.ofConfig config = .ok gate → ∀ (world : W) ops,
      (∀ op ∈ ops, op.KeepsZones) →
      (after b ⟨gate, world⟩ ops).gate.tracker.zones = config.zones ∧
      (config.preferredAz = none → config.hostAzMap = none → ∀ protocol host props later,
        props.get? Properties.preferredAz = some wanted →
        props.get? Properties.hostAzMap = map → (∀ op ∈ later, op.KeepsZones) →
        (after b ⟨gate, world⟩ (ops ++ .connect protocol host props :: later)).gate.tracker.zones =
          trimmed)) ∧
    (∀ host, asGiven.statusOf host =
      if Text.trimmed wanted ≠ wanted ∧ trimmed.statusOf host = .preferred then .notPreferred
      else trimmed.statusOf host) ∧
    ∀ hosts, asGiven.writersStatus hosts =
      if Text.trimmed wanted ≠ wanted ∧ trimmed.writersStatus hosts = .available then .unavailable
      else trimmed.writersStatus hosts := by
  intro asGiven trimmed
  refine ⟨fun text config hconfig hwritten hmap => ?_,
    fun server config servers host hostMap hmap => ⟨rfl, ?_⟩, fun props hzone hmap => ?_,
    fun config gate hnew world ops hops => ?_,
    ZoneSettings.statusOf_ofText wanted map, ZoneSettings.writersStatus_ofText wanted map⟩
  · rw [Config.zones, Config.preferredAz_of_written hconfig hwritten, hmap]
  · rw [Cli.zoneConfig, Config.zones, hmap, Option.some_or]
  · rw [Config.zones_ofProperties hzone, hmap]
  · -- Only the connect between the two parts of the run touches the settings.
    have hconfigured : (after b ⟨gate, world⟩ ops).gate.tracker.zones = config.zones := by
      rw [zones_after b hops]
      obtain ⟨space, rfl⟩ := Gate.ofConfig_eq hnew
      rfl
    refine ⟨hconfigured, fun hunset hunmapped protocol host props later hzone hmap hlater => ?_⟩
    have hnone : (after b ⟨gate, world⟩ ops).gate.tracker.zones = .ofText none none := by
      rw [hconfigured, Config.zones, hunset, hunmapped]
    rw [List.append_cons, after_append, zones_after b hlater, after_concat,
      zones_connect b hnone hzone, hmap]

/-- A host in the zone that is preferred, as its name shows. -/
def zonedHost : String := "db.us-east-1a.net"

/-- A blank at the end of the preferred zone stays in a document and goes in a connect. -/
theorem preferred_zone_given_padded :
    let props : Properties := .ofList [(Properties.preferredAz, "us-east-1a ")]
    let connected := after (.moving []) ⟨.plain, 0⟩ [.connect "jdbc" ⟨"a", 5432, .writer⟩ props]
    (∃ config, Config.ofText "preferredAz: 'us-east-1a '" = .ok config ∧
      config.zones = .ofText (some "us-east-1a ") none ∧
      config.zones.statusOf zonedHost = .notPreferred) ∧
    connected.gate.tracker.zones = .ofText (some (Text.trimmed "us-east-1a ")) none ∧
      connected.gate.tracker.zones.statusOf zonedHost = .preferred := by
  intro props connected
  obtain ⟨hdocument, -, -, hruns, hstatus, -⟩ :=
    preferred_zone_given (.moving []) "us-east-1a " none
  have hread : Config.ofText "preferredAz: 'us-east-1a '" =
      .ok { Config.default with preferredAz := some "us-east-1a " } := by
    decide +kernel
  have hwritten : Config.written? "preferredAz: 'us-east-1a '" Properties.preferredAz =
      some "us-east-1a " := by
    decide +kernel
  have hzones := hdocument _ _ hread hwritten rfl
  have hconnected := (hruns _ _ Gate.ofConfig_plain 0 [] (by simp)).2 rfl rfl "jdbc"
    ⟨"a", 5432, .writer⟩ props [] (by decide +kernel) (by decide +kernel) (by simp)
  refine ⟨⟨_, hread, hzones, ?_⟩, hconnected, ?_⟩
  · rw [hzones, hstatus]
    decide +kernel
  · rw [show connected.gate.tracker.zones = _ from hconnected]
    decide +kernel

/-- The option of the command line and the property say different things about one host. -/
theorem padded_zone_misread :
    let wanted := "us-east-1a "
    let asOption := (Cli.zoneConfig .default none (some wanted)).zones
    let asProperty := (Config.ofProperties (.ofList [(Properties.preferredAz, wanted)])).zones
    asOption.statusOf zonedHost = .notPreferred ∧ asProperty.statusOf zonedHost = .preferred ∧
      asOption.writersStatus [⟨zonedHost, 5432, .writer⟩] = .unavailable ∧
      asProperty.writersStatus [⟨zonedHost, 5432, .writer⟩] = .available := by
  decide +kernel

end Site

end ClusterGate
