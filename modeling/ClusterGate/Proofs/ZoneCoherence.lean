import ClusterGate.Driver.Scripted
import ClusterGate.Proofs.HostMaps
import ClusterGate.Proofs.HostTable

/-!
# Zones in the host table

A record holds the zone of its host, which is resolved from the zone settings when the record is
made. The settings may change later, with any connect, also with one that fails. Records and
settings stay in step all the same: where a connect replaces the host map every record is resolved
anew before anything else happens, a topology carries zones over unchanged, and the preferred zone
plays no part in resolving. The settings themselves are what the connects gave last
(`Site.zones_coherent`).
-/

namespace ClusterGate

/-! ## Records and settings -/

namespace Change

/-- The change is one of the zone settings, or brings the table in step with them. -/
def isSetting : Change → Bool
  | preferred _ | mapped _ | reresolved => true
  | _ => false

/-- What the driver tells settles no zones. -/
theorem isSetting_of_isReport {change : Change} (h : change.isReport = true) :
    change.isSetting = false := by
  cases change with
  | topology hosts => rfl
  | probed host enabled time => rfl
  | _ => cases h

theorem isSetting_of_isTopology {change : Change} (h : change.isTopology = true) :
    change.isSetting = false :=
  isSetting_of_isReport (isReport_of_isTopology h)

end Change

theorem ZoneSettings.hosts_prefer (settings : ZoneSettings) (zone : String) :
    (settings.prefer zone).hosts = settings.hosts := by
  rw [prefer]
  split <;> rfl

namespace Tracker

/-- Every record has the zone that its host is resolved to. -/
def ZonesCurrent (t : Tracker) : Prop := ∀ h r, t.record? h = some r → r.zone = t.resolve h

theorem zonesCurrent_new (zones : ZoneSettings) (interval : Nat) :
    (new zones interval).ZonesCurrent :=
  fun _ _ hr => nomatch hr

/-- Other changes leave the settings alone. -/
theorem zones_apply (t : Tracker) {change : Change} (h : change.isSetting = false) :
    (t.apply change).zones = t.zones := by
  cases change with
  | topology hosts => rfl
  | registered host role => rw [Tracker.apply, ensure_eq]
  | probed host enabled time => rw [Tracker.apply, settle_eq]
  | featured has => rfl
  | _ => cases h

/-- The zone of a record is resolved from the settings when the record is made, and kept. -/
theorem ZonesCurrent.apply {t : Tracker} (ht : t.ZonesCurrent) {change : Change}
    (hchange : change.isSetting = false) : (t.apply change).ZonesCurrent := by
  intro h r hr
  rw [resolve, zones_apply t hchange]
  cases change with
  | topology hosts =>
    -- A host keeps its zone from one topology to the next, and a new host is resolved.
    have hrecord : (t.applyTopology hosts).record? h = some r := hr
    rw [record?_applyTopology] at hrecord
    obtain ⟨spec, hlast, rfl⟩ := Option.map_eq_some_iff.mp hrecord
    have hhost : spec.host = h := (mem_of_lastEntry hlast).2
    rw [carried]
    cases hold : t.record? spec.host with
    | none => rw [← hhost]; rfl
    | some old =>
      rw [← hhost]
      exact (HostRecord.zone_withRole old spec.role).trans (ht spec.host old hold)
  | registered host role =>
    -- A host that is tracked already keeps its record.
    have hrecord : (t.ensure host role).record? h = some r := hr
    rw [record?_ensure] at hrecord
    split at hrecord
    · next heq =>
      subst heq
      cases hold : t.record? h with
      | none =>
        rw [recordOrFresh, hold] at hrecord
        cases hrecord
        rfl
      | some old =>
        rw [recordOrFresh, hold] at hrecord
        cases hrecord
        exact ht h _ hold
    · exact ht h r hrecord
  | probed host enabled time =>
    -- The outcome of a probe is no matter of zones.
    have hrecord : (t.settle host enabled time).record? h = some r := hr
    rw [record?_settle] at hrecord
    split at hrecord
    · next heq =>
      subst heq
      obtain ⟨old, hold, rfl⟩ := Option.map_eq_some_iff.mp hrecord
      have hzone := ht h old hold
      split
      · exact hzone
      · exact hzone
    · exact ht h r hrecord
  | featured has => exact ht h r hr
  | _ => cases hchange

theorem ZonesCurrent.applyTopology {t : Tracker} (ht : t.ZonesCurrent) (hosts : List HostSpec) :
    (t.applyTopology hosts).ZonesCurrent := by
  have hnext : (t.apply (.topology hosts)).ZonesCurrent := ht.apply rfl
  exact hnext

/-- Nothing but settings changes the settings. -/
theorem zones_replay (t : Tracker) {changes : List Change}
    (h : ∀ c ∈ changes, c.isSetting = false) : (t.replay changes).zones = t.zones := by
  induction changes generalizing t with
  | nil => rfl
  | cons change rest ih =>
    rw [replay_cons, ih _ fun c hc => h c (List.mem_cons_of_mem _ hc),
      zones_apply t (h change List.mem_cons_self)]

theorem ZonesCurrent.replay {t : Tracker} (ht : t.ZonesCurrent) {changes : List Change}
    (h : ∀ c ∈ changes, c.isSetting = false) : (t.replay changes).ZonesCurrent := by
  induction changes generalizing t with
  | nil => exact ht
  | cons change rest ih =>
    exact ih (ht.apply (h change List.mem_cons_self)) fun c hc => h c (List.mem_cons_of_mem _ hc)

/-- Resolving the zones anew brings every record in step with the settings, whatever was there. -/
theorem zonesCurrent_reresolve (t : Tracker) : t.reresolve.ZonesCurrent := by
  intro h r hr
  rw [record?_reresolve] at hr
  obtain ⟨old, -, rfl⟩ := Option.map_eq_some_iff.mp hr
  rfl

/-- The preferred zone plays no part in resolving. -/
theorem ZonesCurrent.prefer {t : Tracker} (ht : t.ZonesCurrent) (zone : String) :
    (t.prefer zone).ZonesCurrent := by
  intro h r hr
  have hzone := ht h r hr
  rw [hzone, resolve, resolve, Tracker.prefer, ZoneSettings.resolve, ZoneSettings.resolve,
    ZoneSettings.hosts_prefer]

end Tracker

/-! ## Which changes are settings -/

namespace Watch

variable {W : Type} (b : Backend W) (id : ConnectionId)

theorem isSetting_probeChanges (host : HostSpec) (s : Watch W) :
    ∀ c ∈ probeChanges b id host s, c.isSetting = false := by
  rw [probeChanges]
  intro c hc
  rcases List.mem_append.mp hc with hc | hc
  · exact Change.isSetting_of_isTopology (isTopology_of_mem_capabilityChanges b id s c hc)
  · split at hc
    · cases hc
    · rcases List.mem_cons.mp hc with rfl | hc
      · rfl
      · rcases List.mem_cons.mp hc with rfl | hc
        · rfl
        · split at hc
          · cases hc
          · exact Change.isSetting_of_isReport
              (isReport_of_mem_refreshChanges b id host.host _ c hc)

end Watch

/-- The changes that an operation makes to the zone settings: those that its zone properties demand,
if it is a connect. -/
def Operation.settings {W : Type} : Operation W → List Change
  | .connect _ _ props => Site.propertyChanges props
  | _ => []

namespace Site

variable {W : Type} (b : Backend W)

/-- The settings come first, before the driver is asked for anything. -/
theorem exists_changes_eq_settings (op : Operation W) (s : Site W) :
    ∃ rest, op.changes b s = op.settings ++ rest ∧ ∀ c ∈ rest, c.isSetting = false := by
  have hreports (hop : ∀ protocol host props, op ≠ .connect protocol host props) :
      ∀ c ∈ op.changes b s, c.isSetting = false :=
    fun c hc => Change.isSetting_of_isReport (Operation.isReport_of_mem_changes hop s c hc)
  cases op with
  | connect protocol host props =>
    refine ⟨_, List.append_assoc .., fun c hc => ?_⟩
    rcases List.mem_append.mp hc with hc | hc
    · exact Change.isSetting_of_isTopology (Watch.isTopology_of_mem_connectChanges b _ _ _ _ _ c hc)
    · split at hc
      · cases hc
      · rcases List.mem_append.mp hc with hc | hc
        · exact Watch.isSetting_probeChanges b _ _ _ c hc
        · split at hc
          · exact Change.isSetting_of_isTopology
              (Watch.isTopology_of_mem_callChanges b _ _ _ c hc)
          · cases hc
  | _ => exact ⟨_, rfl, hreports fun _ _ _ hop => by cases hop⟩

end Site

/-! ## Settings that are given with connects -/

/-- The text that a connect gives for a zone property, unless it is blank. -/
def Operation.given? {W : Type} (key : String) : Operation W → Option String
  | .connect _ _ props => (props.get? key).filter fun value => !Text.allBlank value.toList
  | _ => none

/-- The text that was given last for a zone property, by any connect. -/
def Operation.lastGiven? {W : Type} (key : String) (ops : List (Operation W)) : Option String :=
  (ops.filterMap (·.given? key)).getLast?

theorem Operation.lastGiven?_concat {W : Type} (key : String) (ops : List (Operation W))
    (op : Operation W) :
    lastGiven? key (ops ++ [op]) = (op.given? key).or (lastGiven? key ops) := by
  rw [lastGiven?, List.filterMap_append, List.getLast?_append]
  cases hgiven : op.given? key <;> simp [lastGiven?, hgiven]

/-- What a connect takes over is what was given, without blank characters around it. -/
theorem Operation.effective?_eq {W : Type} (protocol : String) (host : HostSpec)
    (props : Properties) (key : String) :
    props.effective? key =
      ((Operation.connect protocol host props : Operation W).given? key).map Text.trimmed := by
  rw [Properties.effective?, given?]
  cases props.get? key with
  | none => rfl
  | some value =>
    cases hblank : Text.allBlank value.toList <;> simp [Text.nonBlank?, Option.filter, hblank]

/-- The preferred zone, after a wish that may have been given. -/
def ZoneSettings.preferredAfter (settings : ZoneSettings) (wanted : Option String) :
    Option String :=
  match wanted with
  | some zone => (settings.prefer zone).preferred
  | .none => settings.preferred

/-- A zone that is preferred is the preferred zone, up to ASCII case. -/
theorem ZoneSettings.exists_prefer (settings : ZoneSettings) (zone : String) :
    ∃ current, (settings.prefer zone).preferred = some current ∧
      Text.sameIgnoringCase current zone = true := by
  rw [prefer]
  cases hchanges : settings.changesPreferred zone with
  | true => exact ⟨zone, rfl, by simp⟩
  | false =>
    rw [changesPreferred] at hchanges
    cases hpreferred : settings.preferred with
    | none =>
      rw [hpreferred] at hchanges
      cases hchanges
    | some current =>
      rw [hpreferred] at hchanges
      exact ⟨current, hpreferred, by simpa using hchanges⟩

namespace Tracker

theorem zones_propertyChanges (t : Tracker) (props : Properties) :
    (t.replay (Site.propertyChanges props)).zones =
      ⟨t.zones.preferredAfter (props.effective? Properties.preferredAz),
        ((props.effective? Properties.hostAzMap).map ZoneMap.parse).getD t.zones.hosts⟩ := by
  rw [Site.propertyChanges]
  cases props.effective? Properties.preferredAz with
  | none => cases props.effective? Properties.hostAzMap <;> rfl
  | some zone =>
    cases props.effective? Properties.hostAzMap with
    | none => exact congrArg (ZoneSettings.mk _) (t.zones.hosts_prefer zone)
    | some raw => rfl

/-- A preferred zone moves no host, and a host map is followed by resolving every zone anew. -/
theorem ZonesCurrent.replay_propertyChanges {t : Tracker} (ht : t.ZonesCurrent)
    (props : Properties) : (t.replay (Site.propertyChanges props)).ZonesCurrent := by
  rw [Site.propertyChanges]
  cases props.effective? Properties.hostAzMap with
  | some raw =>
    -- Resolving comes last, so nothing has to be known about the table before it.
    rw [replay_append]
    exact zonesCurrent_reresolve _
  | none =>
    rw [List.append_nil]
    cases props.effective? Properties.preferredAz with
    | none => exact ht
    | some zone => exact ht.prefer zone

variable {W : Type}

/-- The zone settings after an operation. -/
theorem zones_settings (t : Tracker) (op : Operation W) :
    (t.replay op.settings).zones =
      ⟨t.zones.preferredAfter ((op.given? Properties.preferredAz).map Text.trimmed),
        ((op.given? Properties.hostAzMap).map ZoneMap.parse).getD t.zones.hosts⟩ := by
  cases op with
  | connect protocol host props =>
    have hparse : ZoneMap.parse ∘ Text.trimmed = ZoneMap.parse := by
      funext raw
      rw [Function.comp, ZoneMap.parse_trimmed]
    have heffective := Operation.effective?_eq (W := W) protocol host props
    rw [Operation.settings, zones_propertyChanges, heffective, heffective, Option.map_map, hparse]
  | _ => rfl

theorem ZonesCurrent.replay_settings {t : Tracker} (ht : t.ZonesCurrent) (op : Operation W) :
    (t.replay op.settings).ZonesCurrent := by
  cases op with
  | connect protocol host props => exact ht.replay_propertyChanges props
  | _ => exact ht

end Tracker

/-! ## Runs -/

namespace Site

variable {W : Type} (b : Backend W)

/-- Whatever else an operation does, zones and settings are as its settings leave them. -/
theorem zones_seen {op : Operation W} {s : Site W} {seen : List Change}
    (hsettings : op.settings <+: seen) (hseen : seen <+: op.changes b s) :
    (s.gate.tracker.replay seen).zones = (s.gate.tracker.replay op.settings).zones ∧
      (s.gate.tracker.ZonesCurrent → (s.gate.tracker.replay seen).ZonesCurrent) := by
  obtain ⟨rest, hchanges, hquiet⟩ := exists_changes_eq_settings b op s
  obtain ⟨since, rfl⟩ := hsettings
  rw [hchanges, List.prefix_append_right_inj] at hseen
  have hsince : ∀ c ∈ since, c.isSetting = false := fun c hc => hquiet c (hseen.subset hc)
  rw [Tracker.replay_append]
  exact ⟨Tracker.zones_replay _ hsince, fun ht => (ht.replay_settings op).replay hsince⟩

theorem zones_perform (op : Operation W) (s : Site W) :
    (perform b op s).state.gate.tracker.zones = (s.gate.tracker.replay op.settings).zones ∧
      (s.gate.tracker.ZonesCurrent → (perform b op s).state.gate.tracker.ZonesCurrent) := by
  obtain ⟨rest, hchanges, -⟩ := exists_changes_eq_settings b op s
  have hsettings : op.settings <+: op.changes b s := ⟨rest, hchanges.symm⟩
  rw [perform_tracker]
  exact zones_seen b hsettings List.prefix_rfl

section
variable {config : Config} {gate : Gate} (hnew : Gate.ofConfig config = .ok gate) (world : W)
  (ops : List (Operation W))
include hnew

/-- In every state that is reached the zones in the table are those of the settings. -/
theorem zonesCurrent_after : (after b ⟨gate, world⟩ ops).gate.tracker.ZonesCurrent := by
  induction ops using List.reverseRecOn with
  | nil =>
    obtain ⟨space, rfl⟩ := Gate.ofConfig_eq hnew
    exact Tracker.zonesCurrent_new _ _
  | append_singleton ops op ih =>
    rw [after_concat]
    exact (zones_perform b op _).2 ih

theorem sorted_after : (after b ⟨gate, world⟩ ops).gate.tracker.Sorted := by
  rw [after_tracker]
  obtain ⟨space, rfl⟩ := Gate.ofConfig_eq hnew
  exact (Tracker.sorted_new _ _).replay _

/-- The host map is the one that was given last, or the configured one. -/
theorem hosts_after :
    (after b ⟨gate, world⟩ ops).gate.tracker.zones.hosts =
      ((Operation.lastGiven? Properties.hostAzMap ops).map ZoneMap.parse).getD
        config.zones.hosts := by
  induction ops using List.reverseRecOn with
  | nil =>
    obtain ⟨space, rfl⟩ := Gate.ofConfig_eq hnew
    rfl
  | append_singleton ops op ih =>
    rw [after_concat, (zones_perform b op _).1, Tracker.zones_settings, ih,
      Operation.lastGiven?_concat]
    cases op.given? Properties.hostAzMap <;> rfl

/-- The preferred zone is the one that was given last, up to ASCII case, or the configured one. -/
theorem preferred_after :
    match Operation.lastGiven? Properties.preferredAz ops with
    | some wanted =>
      ∃ current, (after b ⟨gate, world⟩ ops).gate.tracker.zones.preferred = some current ∧
        Text.sameIgnoringCase current (Text.trimmed wanted) = true
    | none =>
      (after b ⟨gate, world⟩ ops).gate.tracker.zones.preferred =
        config.preferredAz.bind ZoneSettings.unlessBlank := by
  induction ops using List.reverseRecOn with
  | nil =>
    obtain ⟨space, rfl⟩ := Gate.ofConfig_eq hnew
    rfl
  | append_singleton ops op ih =>
    rw [after_concat, (zones_perform b op _).1, Tracker.zones_settings,
      Operation.lastGiven?_concat]
    cases op.given? Properties.preferredAz with
    | none => exact ih
    | some wanted => exact ZoneSettings.exists_prefer _ _

end

/-- After any run of connects with any properties, topologies, calls and closes, every record has
the zone that its host is resolved to under the settings as they are then. This also holds while an
operation is under way, as soon as it has taken over its zone properties. The host map is that of
the last connect, opened or not, that gave one that is not blank, or else the configured one, and
the preferred zone is the one given last up to ASCII case, or else the configured one. Resolving the
zones anew touches nothing but the zones of the records. -/
theorem zones_coherent {config : Config} {gate : Gate} (hnew : Gate.ofConfig config = .ok gate)
    (world : W) (ops : List (Operation W)) :
    let s := after b ⟨gate, world⟩ ops
    let zones := s.gate.tracker.zones
    (∀ r ∈ s.gate.tracker.records, r.zone = s.gate.tracker.resolve r.host) ∧
      (∀ (op : Operation W) seen, op.settings <+: seen → seen <+: op.changes b s →
        let t := s.gate.tracker.replay seen
        t.zones = (perform b op s).state.gate.tracker.zones ∧
          ∀ r ∈ t.records, r.zone = t.resolve r.host) ∧
      zones.hosts =
        ((Operation.lastGiven? Properties.hostAzMap ops).map ZoneMap.parse).getD
          config.zones.hosts ∧
      (match Operation.lastGiven? Properties.preferredAz ops with
        | some wanted =>
          ∃ current, zones.preferred = some current ∧
            Text.sameIgnoringCase current (Text.trimmed wanted) = true
        | none => zones.preferred = config.preferredAz.bind ZoneSettings.unlessBlank) ∧
      ∀ t : Tracker, { t.reresolve with hosts := t.hosts } = t ∧
        ∀ h, t.reresolve.record? h =
          (t.record? h).map fun r => { r with zone := t.resolve h } := by
  intro s zones
  have hcurrent : s.gate.tracker.ZonesCurrent := zonesCurrent_after b hnew world ops
  have hsorted : s.gate.tracker.Sorted := sorted_after b hnew world ops
  refine ⟨fun r hr => hcurrent r.host r (hsorted.mem_records_iff.mp hr),
    fun op seen hsettings hseen => ?_, hosts_after b hnew world ops,
    preferred_after b hnew world ops, fun t => ⟨rfl, fun h => t.record?_reresolve h⟩⟩
  obtain ⟨hzones, hstep⟩ := zones_seen b hsettings hseen
  refine ⟨hzones.trans (zones_perform b op s).1.symm, fun r hr => ?_⟩
  exact hstep hcurrent r.host r ((hsorted.replay seen).mem_records_iff.mp hr)

open ScriptedCluster (backend)

/-- A cluster with a host that takes no connection. -/
def brokenCluster : ScriptedCluster :=
  (⟨∅, ∅, false, 0⟩ : ScriptedCluster).layDown "down" { Behaviour.healthy with
    connectFault := some .closed }

/-- A connect gives zone properties, and one that fails gives others. -/
def relocating : List (Operation ScriptedCluster) :=
  [.connect "jdbc" ⟨"db", 5432, .writer⟩
      (.ofList [(Properties.preferredAz, "west"), (Properties.hostAzMap, "db:west")]),
    .connect "jdbc" ⟨"down", 5432, .reader⟩
      (.ofList [(Properties.preferredAz, " West "), (Properties.hostAzMap, " db : east ")])]

/-- The failed connect moves the host, and its spelling of the preferred zone is not taken over. -/
theorem zones_coherent_relocating :
    let s := after backend ⟨.plain, brokenCluster⟩ relocating
    s.gate.handles.map (·.host.host) = ["db"] ∧ s.gate.tracker.zones.hosts = .parse "db:east" ∧
      s.gate.tracker.zones.preferred = some "west" ∧
      s.gate.tracker.records.map (·.zone) = [some "east"] := by
  intro s
  obtain ⟨hrecords, -, hhosts, -⟩ :=
    zones_coherent backend Gate.ofConfig_plain brokenCluster relocating
  obtain ⟨hheld, hgiven, hpreferred, hmap⟩ : s.gate.handles.map (·.host.host) = ["db"] ∧
      Operation.lastGiven? Properties.hostAzMap relocating = some " db : east " ∧
      s.gate.tracker.zones.preferred = some "west" ∧
      ZoneMap.parse " db : east " = .parse "db:east" := by
    decide +kernel
  rw [hgiven] at hhosts
  refine ⟨hheld, hhosts.trans hmap, hpreferred, ?_⟩
  have hzones : s.gate.tracker.records.map (·.zone) =
      s.gate.tracker.records.map fun r => s.gate.tracker.resolve r.host :=
    List.map_congr_left hrecords
  exact hzones.trans (by decide +kernel)

end Site

end ClusterGate
