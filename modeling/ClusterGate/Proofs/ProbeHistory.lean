import ClusterGate.Proofs.Changes
import ClusterGate.Proofs.Probing

/-!
# What probes do to the host table

For driver calls and probes this module names the changes that they make to the host table, in
order, together with the proof that these changes are all they do to the table. Topologies that
arrive while a driver call runs stand where the call stands: the outcome of a probe that is
overtaken by a topology is written down after it. A host is registered by a connection whose version
query did not fail, after the topologies that arrived with its queries.
-/

namespace ClusterGate

/-- The topologies that arrived while a driver call ran. -/
def Answer.changes {α : Type} (answer : Answer α) : List Change :=
  answer.pushes.map fun push => .topology push.hosts

namespace Watch

variable {W : Type} (b : Backend W) (id : ConnectionId)

/-! ## Driver calls and queries -/

def callChanges (request : Request) (s : Watch W) : List Change :=
  (b.call s.world id request).2.changes

theorem call_tracker (origin : Origin) (request : Request) (s : Watch W) :
    (call b origin id request s).state.tracker = s.tracker.replay (callChanges b id request s) := by
  rw [call_state]
  exact s.tracker.receiveAll_eq_replay _

def connectChanges (protocol : String) (host : HostSpec) (props : Properties) (s : Watch W) :
    List Change :=
  (b.connect s.world id protocol host props).2.changes

theorem connect_tracker (protocol : String) (host : HostSpec) (props : Properties) (s : Watch W) :
    (connect b id protocol host props s).state.tracker =
      s.tracker.replay (connectChanges b id protocol host props s) :=
  s.tracker.receiveAll_eq_replay _

def queryChanges (sql : String) (s : Watch W) : List Change :=
  callChanges b id (.executeQuery sql) s

theorem query_tracker (sql : String) (s : Watch W) :
    (query b id sql s).state.tracker = s.tracker.replay (queryChanges b id sql s) :=
  call_tracker b id .probe (.executeQuery sql) s

/-! ### What arrives with an answer -/

theorem isTopology_of_mem_changes {α : Type} (answer : Answer α) :
    ∀ c ∈ answer.changes, c.isTopology = true := by
  intro c hc
  obtain ⟨push, -, rfl⟩ := List.mem_map.mp hc
  rfl

theorem isTopology_of_mem_callChanges (request : Request) (s : Watch W) :
    ∀ c ∈ callChanges b id request s, c.isTopology = true :=
  isTopology_of_mem_changes _

theorem isTopology_of_mem_connectChanges (protocol : String) (host : HostSpec) (props : Properties)
    (s : Watch W) : ∀ c ∈ connectChanges b id protocol host props s, c.isTopology = true :=
  isTopology_of_mem_changes _

/-! ## Probes -/

/-- The marker is asked for only where the version line names the engine. -/
def capabilityChanges (s : Watch W) : List Change :=
  let version := query b id versionQuery s
  queryChanges b id versionQuery s ++
    match version.value with
    | .error _ => []
    | .ok result =>
      match result.firstValue? with
      | none => []
      | some line =>
        if (ServerVersion.ofLine line).isTarget then queryChanges b id markerQuery version.state
        else []

/-- While the library finds out what a server is, only topologies change the table. -/
theorem isTopology_of_mem_capabilityChanges (s : Watch W) :
    ∀ c ∈ capabilityChanges b id s, c.isTopology = true := by
  have hversion := isTopology_of_mem_callChanges b id (.executeQuery versionQuery) s
  rw [capabilityChanges]
  intro c hc
  rcases List.mem_append.mp hc with hc | hc
  · exact hversion c hc
  · split at hc
    · cases hc
    · split at hc
      · cases hc
      · split at hc
        · exact isTopology_of_mem_callChanges b id _ _ c hc
        · cases hc

theorem capabilitiesOf_tracker (line : String) (s : Watch W) :
    (capabilitiesOf b id line s).state.tracker =
      s.tracker.replay (if (ServerVersion.ofLine line).isTarget then queryChanges b id markerQuery s
        else []) := by
  by_cases htarget : (ServerVersion.ofLine line).isTarget = true
  · simp only [capabilitiesOf, Act.bind_state, log_apply, if_pos htarget, probeMarker_state,
      Act.pure_value]
    exact query_tracker b id markerQuery s
  · simp [capabilitiesOf, htarget]

theorem probeCapabilities_tracker (s : Watch W) :
    (probeCapabilities b id s).state.tracker = s.tracker.replay (capabilityChanges b id s) := by
  have hquery := query_tracker b id versionQuery s
  rw [capabilityChanges, Tracker.replay_append, ← hquery]
  cases hversion : (query b id versionQuery s).value with
  | error e => simp [probeCapabilities, hversion]
  | ok result =>
    cases hline : result.firstValue? with
    | none => simp [probeCapabilities, hversion, hline]
    | some line =>
      simp only [probeCapabilities, Act.bind_state, hversion, hline, Act.pure_value]
      exact capabilitiesOf_tracker b id line _

/-- A reader whose last probe is not believed any more is probed. The outcome is written down after
the topologies that overtook the probe. -/
def refreshChanges (host : String) (s : Watch W) : List Change :=
  match s.tracker.record? host with
  | none => []
  | some r =>
    if s.tracker.needsProbe r (b.now s.world) then
      let asked := probeForwarding b id s
      queryChanges b id forwardingQuery s ++
        [.probed host asked.value (b.now asked.state.world)]
    else []

theorem isReport_of_mem_refreshChanges (host : String) (s : Watch W) :
    ∀ c ∈ refreshChanges b id host s, c.isReport = true := by
  rw [refreshChanges]
  intro c hc
  split at hc
  · cases hc
  · split at hc
    · rcases List.mem_append.mp hc with hc | hc
      · exact Change.isReport_of_isTopology (isTopology_of_mem_callChanges b id _ s c hc)
      · rw [List.mem_singleton.mp hc]
        rfl
    · cases hc

/-- The table after a refresh is the one before it, with the changes of the refresh made in order.
-/
theorem refresh_tracker (host : String) (s : Watch W) :
    (refresh b id host s).state.tracker = s.tracker.replay (refreshChanges b id host s) := by
  cases hr : s.tracker.record? host with
  | none =>
    rw [refresh_untracked hr, refreshChanges, hr]
    rfl
  | some r =>
    cases hneeds : s.tracker.needsProbe r (b.now s.world) with
    | false =>
      simp only [refresh_current hr hneeds, refreshChanges, hr, hneeds]
      rfl
    | true =>
      -- The outcome is written into the table that the query left.
      have hquery := query_tracker b id forwardingQuery s
      rw [(refresh_probe hr hneeds).1]
      simp only [refreshChanges, hr, hneeds, if_true]
      rw [Tracker.replay_concat, ← hquery, ← probeForwarding_state]
      rfl

/-- A host is registered when the version query of its connection did not fail. A reader is then
probed. -/
def probeChanges (host : HostSpec) (s : Watch W) : List Change :=
  let probed := probeCapabilities b id s
  capabilityChanges b id s ++
    match probed.value with
    | .error _ => []
    | .ok capabilities =>
      let found := { probed.state.tracker with featureEngine := capabilities.hasFeatures }
      .featured capabilities.hasFeatures :: .registered host.host host.role ::
        if (found.recordOrFresh host.host host.role).isWriter then []
        else refreshChanges b id host.host ⟨found.ensure host.host host.role, probed.state.world⟩

/-- The table after probing a connection is the one before it, with the changes of the probe made in
order. -/
theorem probeConnection_tracker (host : HostSpec) (s : Watch W) :
    (probeConnection b id host s).state.tracker = s.tracker.replay (probeChanges b id host s) := by
  have hprobed := probeCapabilities_tracker b id s
  rw [probeChanges, Tracker.replay_append, ← hprobed]
  cases hvalue : (probeCapabilities b id s).value with
  | error e => simp [probeConnection, hvalue]
  | ok capabilities =>
    simp only [probeConnection, ensure, Act.bind_value, Act.bind_state, hvalue, track_apply,
      log_apply, Act.read_apply, Act.pure_value, Tracker.replay_cons]
    generalize hfound : ({ (probeCapabilities b id s).state.tracker with
      featureEngine := capabilities.hasFeatures } : Tracker) = found
    have hregistered :
        ((probeCapabilities b id s).state.tracker.apply (.featured capabilities.hasFeatures)).apply
          (.registered host.host host.role) = found.ensure host.host host.role := by
      rw [← hfound]
      rfl
    rw [hregistered]
    by_cases hwriter : (found.recordOrFresh host.host host.role).isWriter = true
    · simp [hwriter]
    · have hrefresh := refresh_tracker b id host.host
        ⟨found.ensure host.host host.role, (probeCapabilities b id s).state.world⟩
      simpa [hwriter] using hrefresh

end Watch

end ClusterGate
