import ClusterGate.Proofs.ProbeHistory
import ClusterGate.Proofs.Run

/-!
# The history of the host table

Every operation on a gate makes some changes to the host table, in order, and nothing else happens
to the table (`Site.perform_tracker`). So the table that a run leaves is a replay of the changes of
its operations (`Site.after_tracker`).
-/

namespace ClusterGate

namespace Site

variable {W : Type} (b : Backend W)

/-! ## Calls -/

/-- The check of a statement in strict-writer mode brings the record of the host up to date. -/
def enforceChanges (target : Option Connection) (method : Method) (s : Site W) : List Change :=
  match target with
  | some connection =>
    if method.runsStatement ∧ s.gate.isStrict connection.id then
      Watch.refreshChanges b connection.id connection.host.host s.watch
    else []
  | none => []

/-- Asking for the facts about a host changes the table as a refresh does. -/
theorem hostFacts_tracker (connection : Connection) (s : Site W) :
    (hostFacts b connection s).state.gate.tracker =
      s.gate.tracker.replay
        (Watch.refreshChanges b connection.id connection.host.host s.watch) := by
  have hrefresh : (Watch.refresh b connection.id connection.host.host s.watch).state.tracker =
      s.gate.tracker.replay
        (Watch.refreshChanges b connection.id connection.host.host s.watch) :=
    Watch.refresh_tracker b connection.id connection.host.host s.watch
  cases hr : s.gate.tracker.record? connection.host.host with
  | none => simp [hostFacts, Watch.refreshChanges, watch, hr]
  | some r =>
    by_cases hw : r.isWriter = true
    · simp [hostFacts, Watch.refreshChanges, watch, Tracker.needsProbe, hr, hw]
    · cases hvalue :
          (Watch.refresh b connection.id connection.host.host s.watch).value <;>
        simpa [hostFacts, resume, hr, hw, hvalue] using hrefresh

theorem enforceOn_tracker (target : Option Connection) (method : Method) (sql : Option String)
    (s : Site W) :
    (enforceOn b target method sql s).state.gate.tracker =
      s.gate.tracker.replay (enforceChanges b target method s) := by
  cases target with
  | none => rfl
  | some connection =>
    by_cases hstatement : method.runsStatement = true
    · by_cases hstrict : s.gate.isStrict connection.id = true
      · simp only [enforceOn, enforce, enforceChanges, hstatement, hstrict, Act.bind_state,
          Act.read_apply, if_true, and_self]
        exact hostFacts_tracker b connection s
      · simp [enforceOn, enforce, enforceChanges, hstatement, hstrict]
    · simp [enforceOn, enforceChanges, hstatement]

/-- A control command on a held connection changes nothing. Any other call is checked, and goes to
the driver if the check lets it pass. -/
def callChanges (target : Option Connection) (id : ConnectionId) (request : Request) (s : Site W) :
    List Change :=
  if target.isSome ∧ (request.mode? s.gate.space).isSome then []
  else
    let checked := enforceOn b target request.method request.sql? s
    enforceChanges b target request.method s ++
      match checked.value with
      | .error _ => []
      | .ok () => Watch.callChanges b id request checked.state.watch

/-- A call registers nobody and touches no setting: it changes the table by what the driver tells.
-/
theorem isReport_of_mem_callChanges (target : Option Connection) (id : ConnectionId)
    (request : Request) (s : Site W) :
    ∀ c ∈ callChanges b target id request s, c.isReport = true := by
  have henforce : ∀ c ∈ enforceChanges b target request.method s, c.isReport = true := by
    cases target with
    | none =>
      intro c hc
      cases hc
    | some connection =>
      rw [enforceChanges]
      intro c hc
      split at hc
      · exact Watch.isReport_of_mem_refreshChanges b _ _ _ c hc
      · cases hc
  rw [callChanges]
  intro c hc
  split at hc
  · cases hc
  · rcases List.mem_append.mp hc with hc | hc
    · exact henforce c hc
    · split at hc
      · cases hc
      · exact Change.isReport_of_isTopology (Watch.isTopology_of_mem_callChanges b id _ _ c hc)

theorem proceed_tracker (target : Option Connection) (id : ConnectionId) (request : Request)
    (s : Site W) :
    let checked := enforceOn b target request.method request.sql? s
    (proceed b target id request s).state.gate.tracker =
      s.gate.tracker.replay
        (enforceChanges b target request.method s ++
          match checked.value with
          | .error _ => []
          | .ok () => Watch.callChanges b id request checked.state.watch) := by
  intro checked
  have hchecked := enforceOn_tracker b target request.method request.sql? s
  rw [Tracker.replay_append, ← hchecked]
  cases hvalue : checked.value with
  | error violation =>
    rw [proceed_refused id hvalue]
    rfl
  | ok _ =>
    rw [(proceed_allowed id hvalue).2.1, concluded_tracker]
    exact Watch.call_tracker b id .caller request checked.state.watch

/-- The table after a call is the one before it, with the changes of the call made in order. -/
theorem callFor_tracker (target : Option Connection) (id : ConnectionId) (request : Request)
    (s : Site W) :
    (callFor b target id request s).state.gate.tracker =
      s.gate.tracker.replay (callChanges b target id request s) := by
  cases hmode : request.mode? s.gate.space with
  | none =>
    rw [(callFor_pass b target id request s (.inl hmode)).2.1, proceed_tracker]
    simp [callChanges, hmode]
  | some enabled =>
    cases target with
    | none =>
      rw [(callFor_pass b none id request s (.inr rfl)).2.1, proceed_tracker]
      simp [callChanges]
    | some connection =>
      rw [(callFor_command b connection id request s hmode).2.1]
      simp [callChanges, hmode, Gate.setMode]

/-! ## Connections -/

/-- Zone properties given with a connection replace the zone settings. -/
def propertyChanges (props : Properties) : List Change :=
  (match props.effective? Properties.preferredAz with
    | some zone => [.preferred zone]
    | none => []) ++
  match props.effective? Properties.hostAzMap with
  | some raw => [.mapped (ZoneMap.parse raw), .reresolved]
  | none => []

theorem applyProperties_tracker (props : Properties) (s : Site W) :
    (applyProperties props s).state.gate.tracker =
      s.gate.tracker.replay (propertyChanges props) := by
  unfold applyProperties propertyChanges
  cases props.effective? Properties.preferredAz with
  | none =>
    cases props.effective? Properties.hostAzMap with
    | none => rfl
    | some raw => rfl
  | some zone =>
    cases props.effective? Properties.hostAzMap with
    | none => rfl
    | some raw => rfl

theorem readied_watch (props : Properties) (s : Site W) :
    (readied props s).watch = ⟨s.gate.tracker.replay (propertyChanges props), s.world⟩ := by
  have htracker := applyProperties_tracker props s
  have hworld := applyProperties_world props s
  rw [readied_eq]
  show Watch.mk (applyProperties props s).state.gate.tracker (applyProperties props s).state.world =
    _
  rw [htracker, hworld]

/-- Opening a connection asks the world as it is, and takes in what arrives meanwhile. -/
theorem opening_eq (protocol : String) (host : HostSpec) (props : Properties) (s : Site W) :
    let opened := b.connect s.world ⟨s.gate.minted⟩ protocol host props
    (opening b protocol host props s).value = opened.2.result ∧
      (opening b protocol host props s).state =
        ⟨(s.gate.tracker.replay (propertyChanges props)).receiveAll opened.2.pushes, opened.1⟩ := by
  rw [opening, readied_watch]
  exact ⟨rfl, rfl⟩

/-- A connection takes over the zone properties, is opened and is probed. When its version query
fails it is closed again. -/
def connectChanges (protocol : String) (host : HostSpec) (props : Properties) (s : Site W) :
    List Change :=
  let id : ConnectionId := ⟨s.gate.minted⟩
  let opened := opening b protocol host props s
  let probed := probing b protocol host props s
  propertyChanges props ++ Watch.connectChanges b id protocol host props (readied props s).watch ++
    match opened.value with
    | .error _ => []
    | .ok () =>
      Watch.probeChanges b id host opened.state ++
        match probed.value with
        | .error _ => Watch.callChanges b id .close probed.state
        | .ok _ => []

/-- The table after a connect is the one before it, with the changes of the connect made in order. A
connect that fails changes it as well. -/
theorem connect_tracker (protocol : String) (host : HostSpec) (props : Properties) (s : Site W) :
    (connect b protocol host props s).state.gate.tracker =
      s.gate.tracker.replay (connectChanges b protocol host props s) := by
  have hready :
      (readied props s).watch.tracker = s.gate.tracker.replay (propertyChanges props) := by
    rw [readied_eq]
    exact applyProperties_tracker props s
  have hopened : (opening b protocol host props s).state.tracker = _ :=
    Watch.connect_tracker b ⟨s.gate.minted⟩ protocol host props (readied props s).watch
  have hprobed : (probing b protocol host props s).state.tracker = _ :=
    Watch.probeConnection_tracker b ⟨s.gate.minted⟩ host (opening b protocol host props s).state
  rw [connectChanges]
  simp only [Tracker.replay_append]
  rw [← hready, ← hopened]
  cases hopen : (opening b protocol host props s).value with
  | error source =>
    rw [(connect_refused hopen).2]
    rfl
  | ok _ =>
    simp only [Tracker.replay_append]
    rw [← hprobed]
    cases hprobe : (probing b protocol host props s).value with
    | error source =>
      rw [(connect_abandoned hopen hprobe).2]
      exact Watch.call_tracker b ⟨s.gate.minted⟩ .probe .close
        (probing b protocol host props s).state
    | ok capabilities =>
      rw [(connect_handedOut hopen hprobe).2]
      rfl

end Site

/-! ## Operations and runs -/

/-- The changes that an operation makes to the host table, in order. -/
def Operation.changes {W : Type} (b : Backend W) (s : Site W) : Operation W → List Change
  | .connect protocol host props => Site.connectChanges b protocol host props s
  | .call (.connection id) request =>
    match s.gate.connection? id with
    | some connection => Site.callChanges b (some connection) connection.id request s
    | none => []
  | .call (.statement statement) request =>
    Site.callChanges b (s.gate.ownerOf statement) statement.owner request s
  | .announce hosts | .applyTopology hosts | .seed (.ok hosts) => [.topology hosts]
  | .release _ | .purge | .seed (.error _) | .elapse _ => []

/-- Of all operations only a connect does more to the host table than to report what the driver
tells. -/
theorem Operation.isReport_of_mem_changes {W : Type} {b : Backend W} {op : Operation W}
    (hop : ∀ protocol host props, op ≠ .connect protocol host props) (s : Site W) :
    ∀ c ∈ op.changes b s, c.isReport = true := by
  cases op with
  | connect protocol host props => exact absurd rfl (hop protocol host props)
  | call target request =>
    cases target with
    | connection id =>
      rw [changes]
      split
      · exact Site.isReport_of_mem_callChanges b _ _ request s
      · exact fun _ hmem => by cases hmem
    | statement statement => exact Site.isReport_of_mem_callChanges b _ _ request s
  | seed source => cases source <;> simp [changes, Change.isReport]
  | _ => simp [changes, Change.isReport]

namespace Site

variable {W : Type} (b : Backend W)

/-- What an operation does to the host table is what its changes do. -/
theorem perform_tracker (op : Operation W) (s : Site W) :
    (perform b op s).state.gate.tracker = s.gate.tracker.replay (op.changes b s) := by
  cases op with
  | connect protocol host props => exact connect_tracker b protocol host props s
  | call target request =>
    cases target with
    | connection id =>
      rw [Operation.changes]
      cases hheld : s.gate.connection? id with
      | none =>
        rw [perform_call_connection_gone b hheld]
        rfl
      | some connection =>
        have howner : s.gate.connection? (Target.connection id).owner = some connection := hheld
        rw [perform_call_held b howner]
        exact callFor_tracker b (some connection) connection.id request s
    | statement statement =>
      exact callFor_tracker b (s.gate.ownerOf statement) statement.owner request s
  | release id =>
    cases hheld : s.gate.connection? id <;> simp [perform, Operation.changes, hheld]
  | purge => rfl
  | announce hosts => rfl
  | applyTopology hosts => rfl
  | seed source => cases source <;> rfl
  | elapse world => rfl

/-- The changes that a run makes to the host table. -/
def past (s : Site W) (ops : List (Operation W)) : List Change :=
  (trail b s ops).flatMap fun m => m.operation.changes b m.site

theorem past_concat (s : Site W) (ops : List (Operation W)) (op : Operation W) :
    past b s (ops ++ [op]) = past b s ops ++ op.changes b (after b s ops) := by
  simp [past]

/-- The table that a run leaves is what its past makes of the first one. -/
theorem after_tracker (s : Site W) (ops : List (Operation W)) :
    (after b s ops).gate.tracker = s.gate.tracker.replay (past b s ops) := by
  induction ops using List.reverseRecOn with
  | nil => rfl
  | append_singleton ops op ih =>
    rw [after_concat, perform_tracker, ih, past_concat, Tracker.replay_append]

end Site

end ClusterGate
