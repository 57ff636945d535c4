import ClusterGate.Proofs.Contacts
import ClusterGate.Proofs.Emission
import ClusterGate.Proofs.History
import ClusterGate.Proofs.Sight

/-!
# What is done on connections to other hosts

A connection tells the host table about its own host, and about others only by the topologies that
come in meanwhile (`Site.foreign_callChanges`, `Site.foreign_connectChanges`). Of the world it can
touch what calls on this very connection touch: what the library's own calls preserve and the one
that a caller asks for, every operation on the connection preserves (`Site.world_callFor`,
`Site.world_connect`).
-/

namespace ClusterGate

/-! ## The host table -/

namespace Watch

variable {W : Type} (b : Backend W) (id : ConnectionId) {h : String}

/-- A probe is written down under the host that was probed. -/
theorem foreign_refreshChanges {host : String} (hother : host ≠ h) (s : Watch W) :
    ∀ change ∈ refreshChanges b id host s, change.isForeign h = true := by
  rw [refreshChanges]
  intro change hmem
  split at hmem
  · cases hmem
  · split at hmem
    · rcases List.mem_append.mp hmem with hmem | hmem
      · exact Change.isForeign_of_isTopology h (isTopology_of_mem_callChanges b id _ s) change hmem
      · rw [List.mem_singleton.mp hmem]
        exact decide_eq_true hother.symm
    · cases hmem

/-- A connection registers its own host. -/
theorem foreign_probeChanges {host : HostSpec} (hother : host.host ≠ h) (s : Watch W) :
    ∀ change ∈ probeChanges b id host s, change.isForeign h = true := by
  rw [probeChanges]
  refine List.forall_mem_append.mpr ⟨?_, ?_⟩
  · exact Change.isForeign_of_isTopology h (isTopology_of_mem_capabilityChanges b id s)
  · split
    · exact List.forall_mem_nil _
    · refine List.forall_mem_cons.mpr ⟨rfl, List.forall_mem_cons.mpr ⟨?_, ?_⟩⟩
      · exact decide_eq_true hother.symm
      · split
        · exact List.forall_mem_nil _
        · exact foreign_refreshChanges b id hother _

end Watch

namespace Site

variable {W : Type} (b : Backend W) {h : String}

/-- Zones are not about any host. -/
theorem foreign_propertyChanges (h : String) (props : Properties) :
    ∀ change ∈ propertyChanges props, change.isForeign h = true := by
  rw [propertyChanges]
  refine List.forall_mem_append.mpr ⟨?_, ?_⟩
  · split <;> simp [Change.isForeign]
  · split <;> simp [Change.isForeign]

theorem topologies_propertyChanges (props : Properties) :
    Change.topologies (propertyChanges props) = [] := by
  rw [Change.topologies, propertyChanges, List.filterMap_append]
  cases props.effective? Properties.preferredAz <;>
    cases props.effective? Properties.hostAzMap <;> rfl

theorem sight_propertyChanges (t : Tracker) (props : Properties) (h : String) :
    (t.replay (propertyChanges props)).sight h = t.sight h := by
  rw [t.sight_replay_foreign (foreign_propertyChanges h props), topologies_propertyChanges]
  rfl

/-- A call on a connection to another host changes nothing that is known of this one, topologies
apart. -/
theorem foreign_callChanges {target : Option Connection}
    (hother : ∀ connection ∈ target, connection.host.host ≠ h) (id : ConnectionId)
    (request : Request) (s : Site W) :
    ∀ change ∈ callChanges b target id request s, change.isForeign h = true := by
  have henforce : ∀ change ∈ enforceChanges b target request.method s,
      change.isForeign h = true := by
    cases target with
    | none => exact List.forall_mem_nil _
    | some connection =>
      rw [enforceChanges]
      split
      · exact Watch.foreign_refreshChanges b _ (hother connection rfl) _
      · exact List.forall_mem_nil _
  rw [callChanges]
  split
  · exact List.forall_mem_nil _
  · refine List.forall_mem_append.mpr ⟨henforce, ?_⟩
    split
    · exact List.forall_mem_nil _
    · exact Change.isForeign_of_isTopology h (Watch.isTopology_of_mem_callChanges b id _ _)

/-- A connect to another host does not either. -/
theorem foreign_connectChanges {host : HostSpec} (hother : host.host ≠ h) (protocol : String)
    (props : Properties) (s : Site W) :
    ∀ change ∈ connectChanges b protocol host props s, change.isForeign h = true := by
  rw [connectChanges]
  refine List.forall_mem_append.mpr ⟨List.forall_mem_append.mpr ⟨?_, ?_⟩, ?_⟩
  · exact foreign_propertyChanges h props
  · exact Change.isForeign_of_isTopology h
      (Watch.isTopology_of_mem_connectChanges b _ protocol host props _)
  · split
    · exact List.forall_mem_nil _
    · refine List.forall_mem_append.mpr ⟨Watch.foreign_probeChanges b _ hother _, ?_⟩
      split
      · exact Change.isForeign_of_isTopology h (Watch.isTopology_of_mem_callChanges b _ _ _)
      · exact List.forall_mem_nil _

theorem foreign_changes_call {s : Site W} {target : Target}
    (hother : ∀ connection ∈ s.gate.connection? target.owner, connection.host.host ≠ h)
    (request : Request) :
    ∀ change ∈ (Operation.call target request).changes b s, change.isForeign h = true := by
  cases target with
  | connection id =>
    rw [Operation.changes]
    split
    · next connection hheld =>
      exact foreign_callChanges b (fun _ hmem => hother _ (hheld.trans hmem)) _ request s
    · exact List.forall_mem_nil _
  | statement statement => exact foreign_callChanges b hother statement.owner request s

end Site

/-! ## The world -/

namespace Watch

variable {W : Type} {b : Backend W} {id : ConnectionId} {P : W → Prop}
  (hprobe : ∀ w, ∀ request ∈ probeRequests, P w → P (b.call w id request).1)
include hprobe

theorem world_probeCapabilities {s : Watch W} (hs : P s.world) :
    P (probeCapabilities b id s).state.world := by
  have hversion : P (query b id versionQuery s).state.world :=
    hprobe s.world (.executeQuery versionQuery) (by simp [probeRequests]) hs
  rw [(probeCapabilities_asks b id s).1]
  split
  · exact hprobe _ (.executeQuery markerQuery) (by simp [probeRequests]) hversion
  · exact hversion

theorem world_refresh (host : String) {s : Watch W} (hs : P s.world) :
    P (refresh b id host s).state.world := by
  rw [refresh_state]
  split
  · rw [probeForwarding_state]
    exact hprobe s.world (.executeQuery forwardingQuery) (by simp [probeRequests]) hs
  · exact hs

theorem world_probeConnection (host : HostSpec) {s : Watch W} (hs : P s.world) :
    P (probeConnection b id host s).state.world := by
  have hprobed := world_probeCapabilities hprobe hs
  cases hvalue : (probeCapabilities b id s).value with
  | error e =>
    rw [probeConnection_failed host hvalue]
    exact hprobed
  | ok capabilities =>
    rw [(probeConnection_probed host hvalue).2.1]
    exact world_refresh hprobe host.host hprobed

end Watch

namespace Site

variable {W : Type} {b : Backend W} {id : ConnectionId} {P : W → Prop}

section
variable (hprobe : ∀ w, ∀ request ∈ probeRequests, P w → P (b.call w id request).1)
  {target : Option Connection} (htarget : ∀ connection ∈ target, connection.id = id)
include hprobe htarget

theorem world_enforceOn (method : Method) (sql : Option String) {s : Site W} (hs : P s.world) :
    P (enforceOn b target method sql s).state.world := by
  cases target with
  | none => exact hs
  | some connection =>
    obtain rfl := htarget connection rfl
    by_cases hchecked : method.runsStatement = true ∧ s.gate.isStrict connection.id = true
    · rw [(enforceOn_checked hchecked.1 hchecked.2 sql).1]
      exact Watch.world_refresh hprobe connection.host.host hs
    · rw [enforceOn_unchecked hchecked]
      exact hs

/-- A property of the world that the driver keeps is kept by a call. The driver need not keep it for
a command that is consumed. -/
theorem world_callFor {request : Request} {s : Site W}
    (hcall : request.mode? s.gate.space = none ∨ target = none →
      ∀ w, P w → P (b.call w id request).1)
    (hs : P s.world) : P (callFor b target id request s).state.world := by
  by_cases hcommand : target.isSome ∧ (request.mode? s.gate.space).isSome
  · obtain ⟨connection, rfl⟩ := Option.isSome_iff_exists.mp hcommand.1
    obtain ⟨enabled, hmode⟩ := Option.isSome_iff_exists.mp hcommand.2
    rw [(callFor_command b connection id request s hmode).2.1]
    exact hs
  · have hpass := passes_of_not_command hcommand
    have hchecked := world_enforceOn hprobe htarget request.method request.sql? hs
    rw [(callFor_pass b target id request s hpass).2.1]
    cases hvalue : (enforceOn b target request.method request.sql? s).value with
    | error violation =>
      rw [proceed_refused id hvalue]
      exact hchecked
    | ok _ =>
      rw [(proceed_allowed id hvalue).2.1, concluded_world]
      exact hcall hpass _ hchecked

end

theorem world_connect {protocol : String} {host : HostSpec} {props : Properties} {s : Site W}
    (hopened : P (b.connect s.world ⟨s.gate.minted⟩ protocol host props).1)
    (hprobe : ∀ w, ∀ request ∈ probeRequests, P w → P (b.call w ⟨s.gate.minted⟩ request).1) :
    P (connect b protocol host props s).state.world := by
  have hopening : P (opening b protocol host props s).state.world := by
    rw [(opening_eq b protocol host props s).2]
    exact hopened
  have hprobing : P (probing b protocol host props s).state.world :=
    Watch.world_probeConnection hprobe host hopening
  cases hopen : (opening b protocol host props s).value with
  | error source =>
    rw [(connect_refused hopen).2]
    exact hopening
  | ok _ =>
    cases hprobed : (probing b protocol host props s).value with
    | error source =>
      rw [(connect_abandoned hopen hprobed).2]
      exact hprobe _ .close (by simp [probeRequests]) hprobing
    | ok capabilities =>
      rw [(connect_handedOut hopen hprobed).2]
      exact hprobing

end Site

end ClusterGate
