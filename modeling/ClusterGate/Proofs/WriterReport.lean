import ClusterGate.Proofs.ZoneCoherence

/-!
# The writers that are reported with a new topology

The report on writers in the preferred zone is made from the entries of a host list, the table from
the last entry of each host. In every state that a run passes through both see a host in the same
zone, so that every writer of the new table is reported, and no host that the table does not have in
the preferred zone. The two part where a host is listed as a writer first and as a reader last: the
table has a reader, and the report has a writer (`Site.writers_reported`). They agree exactly if no
writer of the zone is listed so, whatever the ports are.
-/

namespace ClusterGate

/-! ## Records and reports -/

/-- The host is in the zone, whatever its ASCII case. -/
def HostRecord.LiesIn (r : HostRecord) (zone : String) : Prop :=
  r.zone.any (Text.sameIgnoringCase · zone) = true

/-- The host is a writer in the zone. -/
def HostRecord.WritesIn (r : HostRecord) (zone : String) : Prop :=
  r.role = .writer ∧ r.LiesIn zone

/-- The report says which writers the table has in the zone. -/
structure Tracker.Confirms (t : Tracker) (zone : String) (report : WriterAvailability) : Prop where
  available : (∃ names, report = .available zone names) ↔ ∃ r ∈ t.records, r.WritesIn zone
  named : ∀ names, report = .available zone names →
    ∀ h, h ∈ names ↔ ∃ r ∈ t.records, r.WritesIn zone ∧ r.host = h
  unavailable : report = .unavailable zone ↔ ∀ r ∈ t.records, ¬r.WritesIn zone

/-- What is reported with a host list, against a table. The report misses no writer and names hosts
of the zone only, and it says what the table holds if and only if every host of the zone that is
listed as a writer is one in its last entry. -/
structure Tracker.Reported (t : Tracker) (zone : String) (hosts : List HostSpec) : Prop where
  decided : t.zones.writerAvailability hosts = .unavailable zone ∨
    ∃ names, t.zones.writerAvailability hosts = .available zone names
  complete : ∀ r ∈ t.records, r.WritesIn zone →
    ∃ names, t.zones.writerAvailability hosts = .available zone names ∧ r.host ∈ names
  located : ∀ names, t.zones.writerAvailability hosts = .available zone names →
    names ≠ [] ∧ ∀ h ∈ names, ∃ r ∈ t.records, r.host = h ∧ r.LiesIn zone
  exact_iff : t.Confirms zone (t.zones.writerAvailability hosts) ↔
    ∀ spec ∈ hosts, spec.role = .writer →
      (t.resolve spec.host).any (Text.sameIgnoringCase · zone) = true →
      (hosts.filter fun other => other.host = spec.host).getLast?.map (·.role) = some .writer

namespace ZoneSettings

variable {settings : ZoneSettings} {zone : String}

/-- The hosts that are named as writers in a zone. -/
def writersIn (settings : ZoneSettings) (zone : String) (hosts : List HostSpec) : List String :=
  (hosts.filter (settings.isPreferredWriter zone)).map (·.host)

theorem mem_writersIn_iff {hosts : List HostSpec} {h : String} :
    h ∈ settings.writersIn zone hosts ↔
      ∃ spec ∈ hosts, spec.host = h ∧ spec.role = .writer ∧
        (settings.resolve h).any (Text.sameIgnoringCase · zone) = true := by
  simp only [writersIn, List.mem_map, List.mem_filter, isPreferredWriter, HostSpec.isWriter,
    Bool.and_eq_true, decide_eq_true_eq]
  constructor
  · rintro ⟨spec, ⟨hmem, hrole, hzone⟩, rfl⟩
    exact ⟨spec, hmem, rfl, hrole, hzone⟩
  · rintro ⟨spec, hmem, rfl, hrole, hzone⟩
    exact ⟨spec, ⟨hmem, hrole, hzone⟩, rfl⟩

/-- Writers in the preferred zone are available if there are some to name. -/
theorem writerAvailability_cases (hpreferred : settings.preferred = some zone)
    (hosts : List HostSpec) :
    settings.writerAvailability hosts = .unavailable zone ∧ settings.writersIn zone hosts = [] ∨
      settings.writerAvailability hosts = .available zone (settings.writersIn zone hosts) ∧
        settings.writersIn zone hosts ≠ [] := by
  simp only [writerAvailability, hpreferred, writersIn]
  cases hosts.filter (settings.isPreferredWriter zone) with
  | nil => exact .inl ⟨rfl, rfl⟩
  | cons first rest => exact .inr ⟨rfl, List.cons_ne_nil _ _⟩

end ZoneSettings

namespace Tracker

variable {t : Tracker} {zone : String}

/-- A report says what the table holds if the hosts that it names are the writers there. -/
theorem confirms_iff (hpreferred : t.zones.preferred = some zone) (hosts : List HostSpec) :
    t.Confirms zone (t.zones.writerAvailability hosts) ↔
      ∀ h, h ∈ t.zones.writersIn zone hosts ↔ ∃ r ∈ t.records, r.WritesIn zone ∧ r.host = h := by
  rcases ZoneSettings.writerAvailability_cases hpreferred hosts with
    ⟨hreport, hnames⟩ | ⟨hreport, hnames⟩
  · -- Nothing is named, so there must be no writer.
    rw [hreport, hnames]
    constructor
    · intro hconfirms h
      refine iff_of_false List.not_mem_nil ?_
      rintro ⟨r, hr, hwrites, -⟩
      exact hconfirms.unavailable.mp rfl r hr hwrites
    · intro h
      have hnone (r : HostRecord) (hr : r ∈ t.records) : ¬r.WritesIn zone :=
        fun hwrites => List.not_mem_nil ((h r.host).mpr ⟨r, hr, hwrites, rfl⟩)
      refine ⟨iff_of_false (fun ⟨_, heq⟩ => nomatch heq) ?_, fun _ heq => (nomatch heq),
        iff_of_true rfl hnone⟩
      exact fun ⟨r, hr, hwrites⟩ => hnone r hr hwrites
  · -- Any host that is named shows that there must be a writer.
    rw [hreport]
    constructor
    · exact fun hconfirms => hconfirms.named _ rfl
    · intro h
      obtain ⟨name, hname⟩ := List.exists_mem_of_ne_nil _ hnames
      obtain ⟨r, hr, hwrites, -⟩ := (h name).mp hname
      refine ⟨iff_of_true ⟨_, rfl⟩ ⟨r, hr, hwrites⟩, fun names heq => ?_,
        iff_of_false (fun heq => nomatch heq) fun hnone => hnone r hr hwrites⟩
      cases heq
      exact h

/-- Where zones are current, the writers in a zone are those whose hosts are resolved to it. -/
theorem exists_writesIn_iff (hcurrent : t.ZonesCurrent) (hsorted : t.Sorted) (h : String) :
    (∃ r ∈ t.records, r.WritesIn zone ∧ r.host = h) ↔
      t.role? h = some .writer ∧ (t.resolve h).any (Text.sameIgnoringCase · zone) = true := by
  rw [role?, Option.map_eq_some_iff]
  constructor
  · rintro ⟨r, hr, ⟨hrole, hzone⟩, rfl⟩
    have hrecord := hsorted.mem_records_iff.mp hr
    rw [HostRecord.LiesIn, hcurrent r.host r hrecord] at hzone
    exact ⟨⟨r, hrecord, hrole⟩, hzone⟩
  · rintro ⟨⟨r, hrecord, hrole⟩, hzone⟩
    have hhost := hsorted.own h r hrecord
    refine ⟨r, hsorted.mem_records_iff.mpr (hhost ▸ hrecord), ⟨hrole, ?_⟩, hhost⟩
    rwa [HostRecord.LiesIn, hcurrent h r hrecord]

/-! ## The table of a new topology -/

section
variable (hcurrent : t.ZonesCurrent) (hsorted : t.Sorted) {hosts : List HostSpec}
include hcurrent hsorted

/-- The writers of the new table are those of the last entries. -/
theorem exists_writesIn_applyTopology_iff {h : String} :
    (∃ r ∈ (t.applyTopology hosts).records, r.WritesIn zone ∧ r.host = h) ↔
      (hosts.filter fun spec => spec.host = h).getLast?.map (·.role) = some .writer ∧
        (t.resolve h).any (Text.sameIgnoringCase · zone) = true := by
  rw [exists_writesIn_iff (hcurrent.applyTopology hosts) (hsorted.applyTopology hosts),
    role?_applyTopology]
  rfl

/-- Every writer of the new table is named. -/
theorem host_mem_writersIn {r : HostRecord} (hr : r ∈ (t.applyTopology hosts).records)
    (hwrites : r.WritesIn zone) : r.host ∈ t.zones.writersIn zone hosts := by
  obtain ⟨hlast, hzone⟩ :=
    (exists_writesIn_applyTopology_iff hcurrent hsorted).mp ⟨r, hr, hwrites, rfl⟩
  obtain ⟨spec, hspec, hrole⟩ := Option.map_eq_some_iff.mp hlast
  obtain ⟨hmem, hhost⟩ := mem_of_lastEntry hspec
  exact ZoneSettings.mem_writersIn_iff.mpr ⟨spec, hmem, hhost, hrole, hzone⟩

/-- Every host that is named is tracked in the zone. -/
theorem exists_liesIn_of_mem_writersIn {h : String} (hh : h ∈ t.zones.writersIn zone hosts) :
    ∃ r ∈ (t.applyTopology hosts).records, r.host = h ∧ r.LiesIn zone := by
  obtain ⟨spec, hmem, hhost, -, hzone⟩ := ZoneSettings.mem_writersIn_iff.mp hh
  -- What is listed is tracked, whichever entry of the host comes last.
  have htracked : h ∈ hosts.map (·.host) := List.mem_map.mpr ⟨spec, hmem, hhost⟩
  rw [← isSome_lastEntry_iff, ← Option.isSome_map, ← record?_applyTopology] at htracked
  obtain ⟨r, hr⟩ := Option.isSome_iff_exists.mp htracked
  have hnext := hsorted.applyTopology hosts
  have hown := hnext.own h r hr
  refine ⟨r, hnext.mem_records_iff.mpr (hown ▸ hr), hown, ?_⟩
  rwa [HostRecord.LiesIn, hcurrent.applyTopology hosts h r hr]

/-- The report is exact if no writer that is named has a last entry as a reader. -/
theorem confirms_applyTopology_iff (hpreferred : t.zones.preferred = some zone) :
    (t.applyTopology hosts).Confirms zone (t.zones.writerAvailability hosts) ↔
      ∀ spec ∈ hosts, spec.role = .writer →
        (t.resolve spec.host).any (Text.sameIgnoringCase · zone) = true →
        (hosts.filter fun other => other.host = spec.host).getLast?.map (·.role) =
          some .writer := by
  have hsettings : (t.applyTopology hosts).zones.preferred = some zone := hpreferred
  have hconfirms := confirms_iff hsettings hosts
  rw [zones_applyTopology] at hconfirms
  simp only [hconfirms, exists_writesIn_applyTopology_iff hcurrent hsorted]
  constructor
  · intro hsame spec hmem hrole hzone
    have hnamed := ZoneSettings.mem_writersIn_iff.mpr ⟨spec, hmem, rfl, hrole, hzone⟩
    exact ((hsame spec.host).mp hnamed).1
  · intro hlast h
    constructor
    · intro hh
      obtain ⟨spec, hmem, rfl, hrole, hzone⟩ := ZoneSettings.mem_writersIn_iff.mp hh
      exact ⟨hlast spec hmem hrole hzone, hzone⟩
    · intro hh
      obtain ⟨r, hr, hwrites, rfl⟩ :=
        (exists_writesIn_applyTopology_iff hcurrent hsorted).mpr hh
      exact host_mem_writersIn hcurrent hsorted hr hwrites

/-- What is reported with a topology, against the table that it leads to. -/
theorem reported_applyTopology (hpreferred : t.zones.preferred = some zone)
    (hosts : List HostSpec) : (t.applyTopology hosts).Reported zone hosts := by
  have hcases := ZoneSettings.writerAvailability_cases hpreferred hosts
  constructor
  · rcases hcases with ⟨hreport, -⟩ | ⟨hreport, -⟩
    · exact .inl hreport
    · exact .inr ⟨_, hreport⟩
  · intro r hr hwrites
    have hnamed := host_mem_writersIn hcurrent hsorted hr hwrites
    rcases hcases with ⟨-, hnames⟩ | ⟨hreport, -⟩
    · rw [hnames] at hnamed
      cases hnamed
    · exact ⟨_, hreport, hnamed⟩
  · intro names hreport
    rcases hcases with ⟨hreport', -⟩ | ⟨hreport', hne⟩
    · cases hreport.symm.trans hreport'
    · cases hreport.symm.trans hreport'
      exact ⟨hne, fun h hh => exists_liesIn_of_mem_writersIn hcurrent hsorted hh⟩
  · exact confirms_applyTopology_iff hcurrent hsorted hpreferred

end

end Tracker

/-! ## Runs -/

namespace Site

variable {W : Type} (b : Backend W)

/-- Publishing a topology logs its changes first and the writers last. -/
theorem events_announce (hosts : List HostSpec) (s : Site W) :
    (perform b (.announce hosts) s).events =
      (s.gate.tracker.applyTopologyNotices hosts).map .logged ++
        (s.gate.tracker.announceNotices hosts).map .logged := by
  rw [← List.map_append]
  simp [perform, announce, log, change, Tracker.receiveNotices]

/-- In every state that a run passes through with a preferred zone, a topology that is published is
reported as follows, whatever it lists, and the report is what is logged last. It says that writers
in the zone are available, or that none is. It names every host that the new table has as a writer
there, and no host that the table does not have in the zone. It says just what the table holds if
and only if every host of the zone that is listed as a writer is one in its last entry. The same
holds of a topology that arrives while an operation is under way, which has taken over its zone
properties by then. -/
theorem writers_reported {config : Config} {gate : Gate} (hnew : Gate.ofConfig config = .ok gate)
    (world : W) (ops : List (Operation W)) :
    let s := after b ⟨gate, world⟩ ops
    (∀ zone, s.gate.tracker.zones.preferred = some zone → ∀ hosts,
      let step := perform b (.announce hosts) s
      let next := step.state.gate.tracker
      next.Reported zone hosts ∧
        (next.zones.writerAvailability hosts).notices.map .logged <:+ step.events) ∧
      ∀ (op : Operation W) seen, op.settings <+: seen → seen <+: op.changes b s →
        let t := s.gate.tracker.replay seen
        ∀ zone, t.zones.preferred = some zone →
          ∀ hosts, (t.applyTopology hosts).Reported zone hosts := by
  intro s
  have hcurrent : s.gate.tracker.ZonesCurrent := zonesCurrent_after b hnew world ops
  have hsorted : s.gate.tracker.Sorted := sorted_after b hnew world ops
  refine ⟨fun zone hpreferred hosts => ⟨?_, ?_⟩, fun op seen hsettings hseen => ?_⟩
  · exact Tracker.reported_applyTopology hcurrent hsorted hpreferred hosts
  · rw [events_announce]
    exact List.suffix_append ..
  · intro t zone
    exact Tracker.reported_applyTopology ((zones_seen b hsettings hseen).2 hcurrent)
      (hsorted.replay seen)

/-- A connect prefers a zone. -/
def preferring : List (Operation Nat) :=
  [.connect "jdbc" ⟨"c", 5432, .writer⟩ (.ofList [(Properties.preferredAz, "US-EAST-1A")])]

/-- A reader is promoted within a list that has both of its ports: the report is the table's. -/
theorem writers_reported_promoted :
    let t := (after (.moving []) ⟨.plain, 0⟩ preferring).gate.tracker
    let hosts : List HostSpec :=
      [⟨"w.us-east-1a.net", 5432, .reader⟩, ⟨"w.us-east-1a.net", 5433, .writer⟩]
    t.zones.preferred = some "US-EAST-1A" ∧
      (t.applyTopology hosts).Confirms "US-EAST-1A" (t.zones.writerAvailability hosts) := by
  intro t hosts
  have hpreferred : t.zones.preferred = some "US-EAST-1A" := by decide +kernel
  have hreported :=
    ((writers_reported (.moving []) Gate.ofConfig_plain 0 preferring).1 _ hpreferred hosts).1
  refine ⟨hpreferred, hreported.exact_iff.mpr ?_⟩
  decide +kernel

/-- A writer is demoted within a list that has both of its ports: the table has no writer, and the
report names one. -/
theorem demoted_writer_reported :
    let t := (after (.moving []) ⟨.plain, 0⟩ preferring).gate.tracker
    let hosts : List HostSpec :=
      [⟨"w.us-east-1a.net", 5432, .writer⟩, ⟨"w.us-east-1a.net", 5433, .reader⟩]
    t.zones.preferred = some "US-EAST-1A" ∧
      (t.applyTopology hosts).records.map (fun r => (r.host, r.role)) =
        [("w.us-east-1a.net", .reader)] ∧
      t.zones.writerAvailability hosts = .available "US-EAST-1A" ["w.us-east-1a.net"] ∧
      ¬(t.applyTopology hosts).Confirms "US-EAST-1A" (t.zones.writerAvailability hosts) := by
  intro t hosts
  have hreport :
      t.zones.writerAvailability hosts = .available "US-EAST-1A" ["w.us-east-1a.net"] := by
    decide +kernel
  have hroles : (t.applyTopology hosts).records.map (·.role) = [.reader] := by decide +kernel
  refine ⟨by decide +kernel, by decide +kernel, hreport, fun hconfirms => ?_⟩
  obtain ⟨r, hr, ⟨hwriter, -⟩⟩ := hconfirms.available.mp ⟨_, hreport⟩
  have hrole : r.role ∈ (t.applyTopology hosts).records.map (·.role) := List.mem_map_of_mem hr
  rw [hroles, hwriter] at hrole
  cases List.mem_singleton.mp hrole

end Site

end ClusterGate
