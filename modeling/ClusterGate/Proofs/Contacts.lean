import ClusterGate.Proofs.Probing
import ClusterGate.Proofs.Run

/-!
# What is asked of a driver, and in which order

For probes, checks and connects this module lists the events in which the driver takes part, and
with them the state that is left. A connection that was opened is asked for its version, for the
marker of the cluster engine where the version line names it (`Watch.asksMarker`), and for write
forwarding where the record of its host says so (`Watch.asksForwarding`). The check of a statement
asks for write forwarding or for nothing.
-/

namespace ClusterGate

/-! ## Probes -/

namespace Watch

variable {W : Type} (b : Backend W) (id : ConnectionId)

theorem contacts_query (sql : String) (s : Watch W) :
    Event.contacts (query b id sql s).events = [.called id .probe (.executeQuery sql)] :=
  contacts_call b .probe id (.executeQuery sql) s

theorem contacts_probeMarker (s : Watch W) :
    Event.contacts (probeMarker b id s).events =
      [.called id .probe (.executeQuery markerQuery)] := by
  have hquery := contacts_query b id markerQuery s
  cases hq : (query b id markerQuery s).value <;> simp [probeMarker, hq, hquery]

/-- The marker is asked for where the version line names the engine. -/
def asksMarker (s : Watch W) : Bool :=
  match (query b id versionQuery s).value with
  | .ok result => result.firstValue?.any fun line => (ServerVersion.ofLine line).isTarget
  | .error _ => false

/-- The version is asked for once, and the marker after it. -/
theorem probeCapabilities_asks (s : Watch W) :
    let asked := query b id versionQuery s
    let probed := probeCapabilities b id s
    probed.state =
        (if asksMarker b id s then (query b id markerQuery asked.state).state else asked.state) ∧
      Event.contacts probed.events =
        .called id .probe (.executeQuery versionQuery) ::
          if asksMarker b id s then [.called id .probe (.executeQuery markerQuery)] else [] := by
  have hquery := contacts_query b id versionQuery s
  cases hversion : (query b id versionQuery s).value with
  | error e => simp [probeCapabilities, asksMarker, hversion, hquery]
  | ok result =>
    cases hline : result.firstValue? with
    | none => simp [probeCapabilities, asksMarker, hversion, hline, hquery]
    | some line =>
      by_cases htarget : (ServerVersion.ofLine line).isTarget = true
      · simp [probeCapabilities, capabilitiesOf, asksMarker, hversion, hline, hquery, htarget,
          probeMarker_state, contacts_probeMarker]
      · simp [probeCapabilities, capabilitiesOf, asksMarker, hversion, hline, hquery, htarget]

/-- A refresh asks the server: the host is tracked as a reader, and its last probe is not believed
any more. -/
def asksForwarding (host : String) (s : Watch W) : Bool :=
  (s.tracker.record? host).any fun r => s.tracker.needsProbe r (b.now s.world)

/-- A refresh asks one question or none. -/
theorem contacts_refresh (host : String) (s : Watch W) :
    Event.contacts (refresh b id host s).events =
      if asksForwarding b host s then [.called id .probe (.executeQuery forwardingQuery)]
      else [] := by
  cases hr : s.tracker.record? host with
  | none => simp [refresh_untracked hr, asksForwarding, hr]
  | some r =>
    cases hneeds : s.tracker.needsProbe r (b.now s.world) with
    | true => simp [(refresh_probe hr hneeds).2.2, asksForwarding, hr, hneeds]
    | false => simp [refresh_current hr hneeds, asksForwarding, hr, hneeds]

/-- What a refresh leaves: the outcome of the question is written down, if it was asked. -/
theorem refresh_state (host : String) (s : Watch W) :
    let asked := probeForwarding b id s
    (refresh b id host s).state =
      if asksForwarding b host s then
        ⟨asked.state.tracker.settle host asked.value (b.now asked.state.world), asked.state.world⟩
      else s := by
  intro asked
  rw [asksForwarding]
  cases hr : s.tracker.record? host with
  | none =>
    rw [refresh_untracked hr]
    rfl
  | some r =>
    cases hneeds : s.tracker.needsProbe r (b.now s.world) with
    | true =>
      rw [(refresh_probe hr hneeds).1, Option.any_some, hneeds]
      rfl
    | false =>
      rw [refresh_current hr hneeds, Option.any_some, hneeds]
      rfl

/-- What is known once a connection has been probed and its host is tracked. -/
def tracked (host : HostSpec) (capabilities : Capabilities) (s : Watch W) : Watch W :=
  ⟨({ s.tracker with featureEngine := capabilities.hasFeatures } : Tracker).ensure host.host
    host.role, s.world⟩

section
variable {b} {id : ConnectionId} (host : HostSpec) {s : Watch W}

/-- A connection that cannot tell its version is not registered. -/
theorem probeConnection_failed {e : DriverError}
    (h : (probeCapabilities b id s).value = .error e) :
    let probed := probeCapabilities b id s
    probeConnection b id host s = ⟨.error e, probed.state, probed.events⟩ := by
  simp [probeConnection, bind, h]

/-- A connection that was probed has its host tracked and brought up to date. For a writer that is
nothing. -/
theorem probeConnection_probed {capabilities : Capabilities}
    (h : (probeCapabilities b id s).value = .ok capabilities) :
    let probed := probeCapabilities b id s
    let refreshed := refresh b id host.host (tracked host capabilities probed.state)
    let ended := probeConnection b id host s
    ended.value = .ok capabilities ∧ ended.state = refreshed.state ∧
      Event.contacts ended.events =
        Event.contacts probed.events ++ Event.contacts refreshed.events := by
  generalize hfound : ({ (probeCapabilities b id s).state.tracker with
    featureEngine := capabilities.hasFeatures } : Tracker) = found
  by_cases hwriter : (found.recordOrFresh host.host host.role).isWriter = true
  · -- A writer's record is never probed, so leaving out the refresh makes no difference.
    have hrecord : (found.ensure host.host host.role).record? host.host =
        some (found.recordOrFresh host.host host.role) := by
      rw [Tracker.record?_ensure, if_pos rfl]
    have hskipped (w : W) : refresh b id host.host ⟨found.ensure host.host host.role, w⟩ =
        ⟨some (found.recordOrFresh host.host host.role), ⟨found.ensure host.host host.role, w⟩,
          []⟩ :=
      refresh_current hrecord (by simp [Tracker.needsProbe, hwriter])
    simp [probeConnection, ensure, tracked, h, hfound, hwriter, hskipped]
  · simp [probeConnection, ensure, tracked, h, hfound, hwriter]

end

end Watch

/-! ## Checks -/

namespace Site

variable {W : Type} {b : Backend W}

/-- Only statements on a connection in strict-writer mode are checked. -/
theorem enforceOn_skipped {target : Option Connection} {method : Method} {s : Site W}
    (h : ∀ connection ∈ target,
      method.runsStatement = true → s.gate.isStrict connection.id = false)
    (sql : Option String) : enforceOn b target method sql s = ⟨.ok (), s, []⟩ := by
  cases target with
  | none => rfl
  | some connection =>
    by_cases hstatement : method.runsStatement = true
    · have hlax := h connection rfl hstatement
      simp [enforceOn, enforce, bind, hstatement, hlax]
    · simp [enforceOn, pure, hstatement]

/-- Out of strict-writer mode, and for calls that run no statement, the check looks at nothing. -/
theorem enforceOn_unchecked {connection : Connection} {method : Method} {s : Site W}
    (h : ¬(method.runsStatement = true ∧ s.gate.isStrict connection.id = true))
    (sql : Option String) : enforceOn b (some connection) method sql s = ⟨.ok (), s, []⟩ := by
  refine enforceOn_skipped ?_ sql
  rintro held ⟨rfl⟩ hstatement
  exact Bool.eq_false_iff.mpr fun hstrict => h ⟨hstatement, hstrict⟩

/-- A check does what bringing the record of the host up to date does. -/
theorem enforceOn_checked {connection : Connection} {method : Method} {s : Site W}
    (hstatement : method.runsStatement = true) (hstrict : s.gate.isStrict connection.id = true)
    (sql : Option String) :
    let refreshed := Watch.refresh b connection.id connection.host.host s.watch
    let checked := enforceOn b (some connection) method sql s
    checked.state = s.resume refreshed.state ∧
      Event.contacts checked.events = Event.contacts refreshed.events := by
  -- The two ways of finding facts without a refresh are those in which a refresh does nothing.
  have hfacts :
      let refreshed := Watch.refresh b connection.id connection.host.host s.watch
      (hostFacts b connection s).state = s.resume refreshed.state ∧
        Event.contacts (hostFacts b connection s).events = Event.contacts refreshed.events := by
    cases hr : s.gate.tracker.record? connection.host.host with
    | none =>
      have hnone : s.watch.tracker.record? connection.host.host = none := hr
      simp [hostFacts, hr, Watch.refresh_untracked hnone]
    | some r =>
      by_cases hwriter : r.isWriter = true
      · have hsome : s.watch.tracker.record? connection.host.host = some r := hr
        simp [hostFacts, hr, hwriter,
          Watch.refresh_current hsome (by simp [Tracker.needsProbe, hwriter])]
      · cases hvalue : (Watch.refresh b connection.id connection.host.host s.watch).value <;>
          simp [hostFacts, hr, hwriter, hvalue]
  simpa [enforceOn, enforce, hstatement, hstrict] using hfacts

/-! ## Calls -/

/-- A call is no command that is consumed, and goes on to the check. -/
theorem passes_of_not_command {target : Option Connection} {request : Request} {space : Namespace}
    (h : ¬(target.isSome ∧ (request.mode? space).isSome)) :
    request.mode? space = none ∨ target = none := by
  cases target with
  | none => exact .inr rfl
  | some connection => exact .inl (Option.not_isSome_iff_eq_none.mp fun hmode => h ⟨rfl, hmode⟩)

/-- Outside strict-writer mode a call that is no command is what the driver makes of it. -/
theorem callFor_lax (id : ConnectionId) (request : Request) {target : Option Connection}
    {s : Site W} (hlax : ∀ connection ∈ target, s.gate.isStrict connection.id = false)
    (hcommand : request.mode? s.gate.space = none ∨ target = none) :
    let call := callFor b target id request s
    let answered := Watch.call b .caller id request s.watch
    call.value = answered.value.mapError .driver ∧
      call.state = concluded target request (s.resume answered.state) ∧
      Event.contacts call.events = [.called id .caller request] := by
  have hskip : ∀ connection ∈ target,
      request.method.runsStatement = true → s.gate.isStrict connection.id = false :=
    fun connection hconnection _ => hlax connection hconnection
  have hchecked := enforceOn_skipped (b := b) hskip request.sql?
  have hok : (enforceOn b target request.method request.sql? s).value = .ok () := by rw [hchecked]
  obtain ⟨hvalue, hstate, hevents⟩ := callFor_pass b target id request s hcommand
  obtain ⟨hproceed, hended, hcontacts⟩ := proceed_allowed id hok
  rw [hchecked] at hproceed hended hcontacts
  rw [Watch.contacts_call] at hcontacts
  exact ⟨hvalue.trans hproceed, hstate.trans hended, hevents.trans hcontacts⟩

/-! ## Connects -/

theorem contacts_applyProperties (props : Properties) (s : Site W) :
    Event.contacts (applyProperties props s).events = [] := by
  cases hzone : props.effective? Properties.preferredAz <;>
    cases hmap : props.effective? Properties.hostAzMap <;>
      simp [applyProperties, prefer, replaceHostMap, hzone, hmap]

/-- Giving a connection up closes it, and asks nothing more of the driver. -/
theorem contacts_abandon (id : ConnectionId) (host : HostSpec) (source : DriverError)
    (s : Site W) :
    Event.contacts (abandon b id host source s).events = [.called id .probe .close] := by
  cases hclose : (Watch.call b .probe id .close ⟨s.gate.tracker, s.world⟩).value <;>
    simp [abandon, watch, clearAttributes, hclose]

/-- A connect asks the driver to open a connection, and probes it when it is open. When its version
query fails it is closed again. -/
theorem contacts_connect (protocol : String) (host : HostSpec) (props : Properties) (s : Site W) :
    Event.contacts (connect b protocol host props s).events =
      .opened ⟨s.gate.minted⟩ protocol host ::
        match (opening b protocol host props s).value with
        | .error _ => []
        | .ok () =>
          Event.contacts (probing b protocol host props s).events ++
            match (probing b protocol host props s).value with
            | .error _ => [.called ⟨s.gate.minted⟩ .probe .close]
            | .ok _ => [] := by
  -- The zone properties begin no lifetime, so the one that is probed is the one that was minted.
  have hid := ((confined_applyProperties props).alike s).minted
  have hopened : Event.contacts (opening b protocol host props s).events =
      [.opened ⟨s.gate.minted⟩ protocol host] := by
    simp [opening, Watch.connect, Watch.takeIn]
  have hproperties := contacts_applyProperties props s
  cases hopen : (opening b protocol host props s).value with
  | error source =>
    rw [opening, readied_eq] at hopen hopened
    simp [connect, mint, hid, hopen, hopened, hproperties, clearAttributes]
  | ok _ =>
    cases hprobe : (probing b protocol host props s).value with
    | error source =>
      rw [opening, readied_eq] at hopen hopened
      rw [probing, opening, readied_eq] at hprobe
      simp [connect, mint, probing, opening, readied_eq, hid, hopen, hopened, hprobe, hproperties,
        contacts_abandon]
    | ok capabilities =>
      rw [opening, readied_eq] at hopen hopened
      rw [probing, opening, readied_eq] at hprobe
      simp [connect, mint, probing, opening, readied_eq, handOut, hid, hopen, hopened, hprobe,
        hproperties]

/-! ## Operations -/

/-- What goes on inside the gate alone is no event of any connection. -/
theorem contacts_perform_inside {op : Operation W}
    (hconnect : ∀ protocol host props, op ≠ .connect protocol host props)
    (hcall : ∀ target request, op ≠ .call target request) (s : Site W) :
    Event.contacts (perform b op s).events = [] := by
  cases op with
  | connect protocol host props => exact absurd rfl (hconnect protocol host props)
  | call target request => exact absurd rfl (hcall target request)
  | release id =>
    cases hheld : s.gate.connection? id <;>
      simp [perform, release, clearAttributes, purge, hheld]
  | purge => simp [perform, purge]
  | announce hosts => simp [perform, announce]
  | applyTopology hosts => simp [perform, applyTopology]
  | seed source => cases source <;> simp [perform, seed, announce]
  | elapse world => simp [perform]

end Site

end ClusterGate
