import ClusterGate.Proofs.History
import Mathlib.Data.List.DropRight

/-!
# The host table and its history

Two sources write the host table: topologies replace it, and connections add their hosts to it. They
may meet in any order, also in the middle of a connect. The table is determined by what came last
all the same: its hosts are those of the last topology and those registered since, a host of the
topology has the role of its last entry there, and any other host has the role in which it was
registered first.
-/

namespace ClusterGate

/-! ## What a history says about roles -/

namespace Change

/-- The hosts of the last topology. Before the first one there is none. -/
def lastTopology (past : List Change) : List HostSpec :=
  (past.filterMap fun
    | topology hosts => some hosts
    | _ => none).getLast?.getD []

/-- The changes after the last topology. -/
def sinceTopology (past : List Change) : List Change := past.rtakeWhile (!·.isTopology)

/-- The role in which the change registers a host. -/
def registeredRole? (h : String) : Change → Option HostRole
  | registered host role => if h = host then some role else none
  | _ => none

/-- The role of a host according to a history. -/
def roleOf? (past : List Change) (h : String) : Option HostRole :=
  (((lastTopology past).filter fun spec => spec.host = h).getLast?.map (·.role)).or
    ((sinceTopology past).findSome? (registeredRole? h))

theorem lastTopology_concat (past : List Change) (change : Change) :
    lastTopology (past ++ [change]) =
      match change with
      | topology hosts => hosts
      | _ => lastTopology past := by
  rw [lastTopology, List.filterMap_append, List.getLast?_append]
  cases change <;> rfl

theorem sinceTopology_concat (past : List Change) (change : Change) :
    sinceTopology (past ++ [change]) =
      if change.isTopology then [] else sinceTopology past ++ [change] := by
  rw [sinceTopology, List.rtakeWhile_concat]
  cases change <;> rfl

theorem registeredRole?_eq_some_iff {h : String} {change : Change} {role : HostRole} :
    registeredRole? h change = some role ↔ change = registered h role := by
  constructor
  · intro hrole
    cases change with
    | registered host role' =>
      rw [registeredRole?] at hrole
      split at hrole
      · next heq =>
        cases hrole
        rw [heq]
      · cases hrole
    | _ => cases hrole
  · rintro rfl
    exact if_pos rfl

/-- What one more change does to the role of a host. -/
theorem roleOf?_concat (past : List Change) (change : Change) (h : String) :
    roleOf? (past ++ [change]) h = change.roleAfter? h (roleOf? past h) := by
  rw [roleOf?, lastTopology_concat, sinceTopology_concat]
  cases change with
  | topology hosts => exact Option.or_none ..
  | registered host role =>
    simp only [isTopology, Bool.false_eq_true, if_false, List.findSome?_append, ← Option.or_assoc,
      List.findSome?_singleton]
    rfl
  | _ =>
    simp only [isTopology, Bool.false_eq_true, if_false, List.findSome?_append, ← Option.or_assoc]
    exact Option.or_none ..

/-- A host has a role if the last topology lists it or it was registered since. -/
theorem isSome_roleOf?_iff (past : List Change) (h : String) :
    (roleOf? past h).isSome ↔
      h ∈ (lastTopology past).map (·.host) ∨ ∃ role, registered h role ∈ sinceTopology past := by
  rw [roleOf?, Option.isSome_or, Bool.or_eq_true, Option.isSome_map, isSome_lastEntry_iff,
    List.findSome?_isSome_iff]
  refine or_congr_right ⟨?_, ?_⟩
  · rintro ⟨change, hmem, hsome⟩
    obtain ⟨role, hrole⟩ := Option.isSome_iff_exists.mp hsome
    exact ⟨role, registeredRole?_eq_some_iff.mp hrole ▸ hmem⟩
  · rintro ⟨role, hmem⟩
    exact ⟨_, hmem, Option.isSome_of_eq_some (registeredRole?_eq_some_iff.mpr rfl)⟩

end Change

namespace Tracker

/-- A table that starts without hosts has the roles of its history. -/
theorem role?_replay (zones : ZoneSettings) (interval : Nat) (past : List Change) (h : String) :
    ((new zones interval).replay past).role? h = Change.roleOf? past h := by
  induction past using List.reverseRecOn with
  | nil => rfl
  | append_singleton past change ih =>
    rw [replay_concat, role?_apply, ih, Change.roleOf?_concat]

/-- Without a topology no tracked host changes its role. -/
theorem role?_replay_of_tracked {past : List Change} (hpast : ∀ hosts, .topology hosts ∉ past)
    {t : Tracker} {h : String} {role : HostRole} (ht : t.role? h = some role) :
    (t.replay past).role? h = some role := by
  induction past generalizing t with
  | nil => exact ht
  | cons change rest ih =>
    refine ih (fun hosts hmem => hpast hosts (List.mem_cons_of_mem _ hmem)) ?_
    rw [role?_apply]
    cases change with
    | topology hosts => exact absurd List.mem_cons_self (hpast hosts)
    | registered host role' =>
      show (t.role? h).or _ = some role
      rw [ht]
      rfl
    | _ => exact ht

/-- Without a topology and a registration all hosts and roles stay. -/
theorem role?_replay_of_quiet {past : List Change} (hpast : ∀ hosts, .topology hosts ∉ past)
    (hnew : ∀ host role, .registered host role ∉ past) (t : Tracker) (h : String) :
    (t.replay past).role? h = t.role? h := by
  induction past generalizing t with
  | nil => rfl
  | cons change rest ih =>
    have hrest := ih (fun hosts hmem => hpast hosts (List.mem_cons_of_mem _ hmem))
      (fun host role hmem => hnew host role (List.mem_cons_of_mem _ hmem)) (t.apply change)
    rw [replay_cons, hrest, role?_apply]
    cases change with
    | topology hosts => exact absurd List.mem_cons_self (hpast hosts)
    | registered host role => exact absurd List.mem_cons_self (hnew host role)
    | _ => rfl

/-- Topologies that differ in ports only lead to the same table. -/
theorem applyTopology_congr (t : Tracker) {hosts hosts' : List HostSpec}
    (h : hosts.map (fun spec => (spec.host, spec.role)) =
      hosts'.map fun spec => (spec.host, spec.role)) :
    t.applyTopology hosts = t.applyTopology hosts' := by
  have hentries (hosts : List HostSpec) :
      hosts.map (fun spec => (spec.host, t.carried spec)) =
        (hosts.map fun spec => (spec.host, spec.role)).map fun e =>
          (e.1, t.carried ⟨e.1, 0, e.2⟩) := by
    rw [List.map_map]
    rfl
  rw [applyTopology, applyTopology, nextHosts, nextHosts, hentries, hentries hosts', h]

end Tracker

/-! ## Registrations -/

/-- What the driver tells registers nobody. -/
theorem Change.registered_not_mem_of_reports {changes : List Change}
    (hreports : ∀ c ∈ changes, c.isReport = true) (h : String) (role : HostRole) :
    .registered h role ∉ changes := by
  intro hmem
  cases hreports _ hmem

namespace Watch

variable {W : Type} (b : Backend W) (id : ConnectionId) {h : String} {role : HostRole}

@[simp] theorem registered_not_mem_callChanges (request : Request) (s : Watch W) :
    .registered h role ∉ callChanges b id request s :=
  Change.registered_not_mem_of_reports (fun c hc =>
    Change.isReport_of_isTopology (isTopology_of_mem_callChanges b id request s c hc)) h role

@[simp] theorem registered_not_mem_connectChanges (protocol : String) (host : HostSpec)
    (props : Properties) (s : Watch W) :
    .registered h role ∉ connectChanges b id protocol host props s :=
  Change.registered_not_mem_of_reports (fun c hc => Change.isReport_of_isTopology
    (isTopology_of_mem_connectChanges b id protocol host props s c hc)) h role

/-- A refresh registers nobody. -/
theorem registered_not_mem_refreshChanges (host : String) (s : Watch W) :
    .registered h role ∉ refreshChanges b id host s :=
  Change.registered_not_mem_of_reports (isReport_of_mem_refreshChanges b id host s) h role

@[simp] theorem registered_not_mem_capabilityChanges (s : Watch W) :
    .registered h role ∉ capabilityChanges b id s :=
  Change.registered_not_mem_of_reports (fun c hc =>
    Change.isReport_of_isTopology (isTopology_of_mem_capabilityChanges b id s c hc)) h role

/-- A host is registered when a connection to it has been probed. -/
theorem registered_mem_probeChanges_iff (host : HostSpec) (s : Watch W) :
    .registered h role ∈ probeChanges b id host s ↔
      h = host.host ∧ role = host.role ∧
        ∃ capabilities, (probeConnection b id host s).value = .ok capabilities := by
  rw [probeChanges]
  cases hprobed : (probeCapabilities b id s).value with
  | error e => simp [probeConnection, hprobed]
  | ok capabilities =>
    have hvalue : (probeConnection b id host s).value = .ok capabilities := by
      simp only [probeConnection, Act.bind_value, hprobed]
      split <;> rfl
    constructor
    · intro hmem
      rcases List.mem_append.mp hmem with hmem | hmem
      · exact absurd hmem (registered_not_mem_capabilityChanges b id s)
      · rcases List.mem_cons.mp hmem with heq | hmem
        · cases heq
        · rcases List.mem_cons.mp hmem with heq | hmem
          · cases heq
            exact ⟨rfl, rfl, capabilities, hvalue⟩
          · split at hmem
            · exact absurd hmem List.not_mem_nil
            · exact absurd hmem (registered_not_mem_refreshChanges b id host.host _)
    · rintro ⟨rfl, rfl, -⟩
      simp

end Watch

namespace Site

variable {W : Type} (b : Backend W) {h : String} {role : HostRole}

@[simp] theorem registered_not_mem_propertyChanges (props : Properties) :
    .registered h role ∉ propertyChanges props := by
  rw [propertyChanges]
  cases props.effective? Properties.preferredAz <;>
    cases props.effective? Properties.hostAzMap <;> simp

/-- A connect registers its own host in the role it was given, if the connection was opened and
probed. -/
theorem registered_mem_connectChanges_iff (protocol : String) (host : HostSpec)
    (props : Properties) (s : Site W) :
    .registered h role ∈ connectChanges b protocol host props s ↔
      h = host.host ∧ role = host.role ∧ (opening b protocol host props s).value = .ok () ∧
        ∃ capabilities, (probing b protocol host props s).value = .ok capabilities := by
  have hprobe : .registered h role ∈ Watch.probeChanges b ⟨s.gate.minted⟩ host
      (opening b protocol host props s).state ↔ h = host.host ∧ role = host.role ∧
        ∃ capabilities, (probing b protocol host props s).value = .ok capabilities :=
    Watch.registered_mem_probeChanges_iff b ⟨s.gate.minted⟩ host
      (opening b protocol host props s).state
  rw [connectChanges]
  cases hopen : (opening b protocol host props s).value with
  | error source => simp
  | ok _ => cases hvalue : (probing b protocol host props s).value <;> simp [hprobe, hvalue]

/-- Only connects register a host: their own, when the connection was opened and probed. -/
theorem registered_mem_changes_iff (op : Operation W) (s : Site W) :
    .registered h role ∈ op.changes b s ↔
      ∃ protocol host props, op = .connect protocol host props ∧ h = host.host ∧ role = host.role ∧
        (opening b protocol host props s).value = .ok () ∧
        ∃ capabilities, (probing b protocol host props s).value = .ok capabilities := by
  by_cases hconnect : ∃ protocol host props, op = .connect protocol host props
  · obtain ⟨protocol, host, props, rfl⟩ := hconnect
    refine (registered_mem_connectChanges_iff b protocol host props s).trans ?_
    constructor
    · intro hopened
      exact ⟨protocol, host, props, rfl, hopened⟩
    · rintro ⟨_, _, _, heq, hopened⟩
      cases heq
      exact hopened
  · have hunregistered : .registered h role ∉ op.changes b s :=
      Change.registered_not_mem_of_reports (Operation.isReport_of_mem_changes
        (fun protocol host props hop => hconnect ⟨protocol, host, props, hop⟩) s) h role
    exact iff_of_false hunregistered fun ⟨protocol, host, props, hop, _⟩ =>
      hconnect ⟨protocol, host, props, hop⟩

/-- Taking over zone properties leaves all hosts and roles as they are. -/
theorem role?_applyProperties (props : Properties) (s : Site W) (h : String) :
    (applyProperties props s).state.gate.tracker.role? h = s.gate.tracker.role? h := by
  rw [applyProperties_tracker]
  refine Tracker.role?_replay_of_quiet (fun hosts => ?_)
    (fun _ _ => registered_not_mem_propertyChanges props) s.gate.tracker h
  rw [propertyChanges]
  cases props.effective? Properties.preferredAz <;>
    cases props.effective? Properties.hostAzMap <;> simp

end Site

/-! ## The table of a run -/

/-- The table is the one that its history demands: its hosts are those of the last topology and
those registered since, each with one record under its own name, and each in the role of its last
entry in that topology, or else in the role in which it was registered first. -/
structure Tracker.Follows (t : Tracker) (past : List Change) : Prop where
  hosts : ∀ h, (t.record? h).isSome ↔
    h ∈ (Change.lastTopology past).map (·.host) ∨
      ∃ role, .registered h role ∈ Change.sinceTopology past
  own : ∀ h r, t.record? h = some r → r.host = h
  role : ∀ h r, t.record? h = some r →
    some r.role =
      (((Change.lastTopology past).filter fun spec => spec.host = h).getLast?.map (·.role)).or
        ((Change.sinceTopology past).findSome? (Change.registeredRole? h))
  records : ∀ r, r ∈ t.records ↔ t.record? r.host = some r
  ordered : t.records.Pairwise (·.host < ·.host)

/-- Whatever the history of a table is that starts without hosts, the table follows it. -/
theorem Tracker.follows_replay (zones : ZoneSettings) (interval : Nat) (past : List Change) :
    ((new zones interval).replay past).Follows past := by
  have hsorted := (sorted_new zones interval).replay past
  have hrole := role?_replay zones interval past
  constructor
  · -- Being tracked is having a role.
    intro h
    rw [← Change.isSome_roleOf?_iff, ← hrole, role?, Option.isSome_map]
  · exact hsorted.own
  · intro h r hr
    have hknown := hrole h
    rw [role?, hr] at hknown
    exact hknown
  · exact fun _ => hsorted.mem_records_iff
  · exact hsorted.pairwise_records

namespace Site

variable {W : Type} (b : Backend W)

/-- Every table that a run passes through, also while a driver call waits for its answer, is the one
that the topologies and registrations so far demand. A registration is the work of a connect that
was opened and probed. As long as no topology arrives, no operation changes the role of a tracked
host, and none but a connect adds or removes one; zone properties change nothing of the kind, and
ports do not matter to a topology. -/
theorem table_follows_history {config : Config} {gate : Gate}
    (hnew : Gate.ofConfig config = .ok gate) (world : W) (ops : List (Operation W)) :
    let s := after b ⟨gate, world⟩ ops
    let history := past b ⟨gate, world⟩ ops
    s.gate.tracker = gate.tracker.replay history ∧
      (∀ seen, seen <+: history → (gate.tracker.replay seen).Follows seen) ∧
      (∀ (op : Operation W) h role, .registered h role ∈ op.changes b s ↔
        ∃ protocol host props, op = .connect protocol host props ∧ h = host.host ∧
          role = host.role ∧ (opening b protocol host props s).value = .ok () ∧
          ∃ capabilities, (probing b protocol host props s).value = .ok capabilities) ∧
      (∀ op : Operation W, (∀ hosts, .topology hosts ∉ op.changes b s) →
        let next := (perform b op s).state.gate.tracker
        (∀ h role, s.gate.tracker.role? h = some role → next.role? h = some role) ∧
          ((∀ protocol host props, op ≠ .connect protocol host props) →
            ∀ h, next.role? h = s.gate.tracker.role? h)) ∧
      (∀ props h,
        (applyProperties props s).state.gate.tracker.role? h = s.gate.tracker.role? h) ∧
      ∀ hosts hosts' : List HostSpec,
        hosts.map (fun spec => (spec.host, spec.role)) =
            hosts'.map (fun spec => (spec.host, spec.role)) →
          s.gate.tracker.applyTopology hosts = s.gate.tracker.applyTopology hosts' := by
  intro s history
  refine ⟨after_tracker b ⟨gate, world⟩ ops, fun seen _ => ?_,
    fun op h role => registered_mem_changes_iff b op s, fun op hquiet => ?_,
    fun props h => role?_applyProperties props s h,
    fun _ _ hsame => s.gate.tracker.applyTopology_congr hsame⟩
  · obtain ⟨space, rfl⟩ := Gate.ofConfig_eq hnew
    exact Tracker.follows_replay config.zones config.intervalNanos seen
  · intro next
    have hnext : next = s.gate.tracker.replay (op.changes b s) := perform_tracker b op s
    rw [hnext]
    refine ⟨fun h role htracked => Tracker.role?_replay_of_tracked hquiet htracked, ?_⟩
    intro hconnect h
    -- Without a connect nobody is registered.
    refine Tracker.role?_replay_of_quiet hquiet (fun host role hmem => ?_) s.gate.tracker h
    obtain ⟨protocol, spec, props, heq, -⟩ := (registered_mem_changes_iff b op s).mp hmem
    exact hconnect protocol spec props heq

/-- A connect to `db` is overtaken by a topology that lists `db` twice. -/
theorem table_follows_history_overtaken :
    let s := after (.moving [⟨"db", 1, .reader⟩, ⟨"a", 1, .reader⟩, ⟨"db", 2, .writer⟩])
      ⟨.plain, 0⟩ [.connect "jdbc" ⟨"db", 3, .reader⟩ ∅, .connect "jdbc" ⟨"c", 1, .writer⟩ ∅]
    (s.gate.tracker.record? "db").isSome ∧
      ∀ r, s.gate.tracker.record? "db" = some r → r.role = .writer := by
  intro s
  obtain ⟨htable, hfollows, -⟩ := table_follows_history
    (.moving [⟨"db", 1, .reader⟩, ⟨"a", 1, .reader⟩, ⟨"db", 2, .writer⟩]) Gate.ofConfig_plain 0
    [.connect "jdbc" ⟨"db", 3, .reader⟩ ∅, .connect "jdbc" ⟨"c", 1, .writer⟩ ∅]
  have hlast := hfollows _ List.prefix_rfl
  rw [← htable] at hlast
  refine ⟨(hlast.hosts "db").mpr (.inl (by decide +kernel)), fun r hr => ?_⟩
  exact Option.some.inj ((hlast.role "db" r hr).trans (by decide +kernel))

end Site

end ClusterGate
