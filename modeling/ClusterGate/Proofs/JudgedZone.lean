import ClusterGate.Proofs.Contacts
import ClusterGate.Proofs.ZoneCoherence

/-!
# The zone that a connect judges

When a connection is handed out the zone of its host is compared with the preferred zone. The zone
is read back from the host table, and a record that is there has the zone that its host is resolved
to under the settings of that connect (`Site.zonesCurrent_after`). But the record need not be there.
The host was tracked before the server was asked for write forwarding, and a topology that comes in
meanwhile and does not list the host takes it away again. Its zone then counts as unknown, also
where the host map gives it or the name of the host shows it (`Site.dropped_host_unjudged`).

This is the only way in which the zone that is judged differs from the one that the host is resolved
to (`Site.connect_judges`).
-/

namespace ClusterGate

/-! ## Topologies that drop a host -/

/-- The last of these topologies does not list the host. -/
def TopologyPush.lastDrops (pushes : List TopologyPush) (h : String) : Bool :=
  pushes.getLast?.any fun push => push.hosts.all fun spec => spec.host ≠ h

namespace Tracker

/-- A host that was tracked still is, unless the last topology drops it. Those before do not count.
-/
theorem isSome_record?_receiveAll {t : Tracker} {h : String} (ht : (t.record? h).isSome = true)
    (pushes : List TopologyPush) :
    ((t.receiveAll pushes).record? h).isSome = !TopologyPush.lastDrops pushes h := by
  induction pushes using List.reverseRecOn with
  | nil => exact ht
  | append_singleton pushes push _ =>
    have hlast : TopologyPush.lastDrops (pushes ++ [push]) h =
        push.hosts.all fun spec => spec.host ≠ h := by
      rw [TopologyPush.lastDrops, List.getLast?_concat, Option.any_some]
    rw [hlast, receiveAll_append, Bool.eq_iff_iff]
    show ((applyTopology _ push.hosts).record? h).isSome = true ↔ _
    rw [record?_applyTopology, Option.isSome_map, isSome_lastEntry_iff]
    simp

/-- An outcome that is written down takes no host away. -/
theorem isSome_record?_settle (t : Tracker) (host : String) (enabled : Bool) (time : Nat)
    (h : String) : ((t.settle host enabled time).record? h).isSome = (t.record? h).isSome := by
  rw [record?_settle]
  split
  · next heq => rw [heq, Option.isSome_map]
  · rfl

end Tracker

namespace Watch

variable {W : Type} (b : Backend W) (id : ConnectionId)

/-- The topologies that come in with the answer when a refresh asks for write forwarding. -/
def forwardingPushes (host : String) (s : Watch W) : List TopologyPush :=
  if asksForwarding b host s then (b.call s.world id (.executeQuery forwardingQuery)).2.pushes
  else []

/-- A host that was tracked is still tracked after a refresh, unless the last topology that came
with the answer drops it. -/
theorem isSome_record?_refresh {host : String} {s : Watch W}
    (hs : (s.tracker.record? host).isSome = true) :
    ((refresh b id host s).state.tracker.record? host).isSome =
      !TopologyPush.lastDrops (forwardingPushes b id host s) host := by
  rw [refresh_state, forwardingPushes]
  split
  · have hasked : (probeForwarding b id s).state.tracker =
        s.tracker.receiveAll (b.call s.world id (.executeQuery forwardingQuery)).2.pushes :=
      congrArg Watch.tracker (probeForwarding_state b id s)
    rw [Tracker.isSome_record?_settle, hasked]
    exact Tracker.isSome_record?_receiveAll hs _
  · exact hs

end Watch

/-! ## Connects -/

namespace Site

variable {W : Type} (b : Backend W)

section
variable (protocol : String) (host : HostSpec) (props : Properties) (s : Site W)

/-- The topologies that come in while a connect asks for write forwarding. -/
def connectPushes : List TopologyPush :=
  let id : ConnectionId := ⟨s.gate.minted⟩
  let found := Watch.probeCapabilities b id (opening b protocol host props s).state
  match found.value with
  | .ok capabilities =>
    Watch.forwardingPushes b id host.host (Watch.tracked host capabilities found.state)
  | .error _ => []

end

/-- What is logged about a connection that is handed out, once its zone is judged. -/
def judgement (host : HostSpec) (settings : ZoneSettings) (judged : Option String) (url : String) :
    List LogEntry :=
  (settings.preference judged).notices host.host ++
    [Log.info "Connection opened"
      [("host", .text host.text), ("role", .text host.role.text), ("url", .text url)]]

theorem handOut_events (connection : Connection) (s : Site W) :
    let t := s.gate.tracker
    let judged := (t.record? connection.host.host).bind (·.zone)
    (handOut b connection s).events =
      (judgement connection.host t.zones judged (b.url s.world connection.id)).map .logged := by
  simp [handOut, judgement, watch]

section
variable {b} {protocol : String} {host : HostSpec} {props : Properties} {s : Site W}
  {connection : Connection} (hconnect : (connect b protocol host props s).value = .ok connection)
include hconnect

/-- A connect that succeeds has opened and probed its connection. -/
theorem exists_probed_of_connect :
    ∃ capabilities, (opening b protocol host props s).value = .ok () ∧
      (probing b protocol host props s).value = .ok capabilities ∧
      connection = ⟨⟨s.gate.minted⟩, host, capabilities⟩ := by
  cases hopen : (opening b protocol host props s).value with
  | error source =>
    rw [(connect_refused hopen).1] at hconnect
    cases hconnect
  | ok _ =>
    cases hprobe : (probing b protocol host props s).value with
    | error source =>
      rw [(connect_abandoned hopen hprobe).1] at hconnect
      cases hconnect
    | ok capabilities =>
      rw [(connect_handedOut hopen hprobe).1] at hconnect
      cases hconnect
      exact ⟨capabilities, rfl, rfl, rfl⟩

/-- What is logged last is the judgement of the zone that the record of the host shows then. -/
theorem connect_events :
    let ended := connect b protocol host props s
    let t := ended.state.gate.tracker
    let judged := (t.record? host.host).bind (·.zone)
    ∃ earlier, ended.events = earlier ++
      (judgement host t.zones judged (b.url ended.state.world connection.id)).map .logged := by
  obtain ⟨capabilities, hopen, hprobe, rfl⟩ := exists_probed_of_connect hconnect
  obtain ⟨-, hstate⟩ := connect_handedOut hopen hprobe
  have hid := ((confined_applyProperties props).alike s).minted
  rw [opening, readied_eq] at hopen
  rw [probing, opening, readied_eq] at hprobe
  have hevents : (connect b protocol host props s).events =
      (applyProperties props s).events ++ ((opening b protocol host props s).events ++
        ((probing b protocol host props s).events ++
          (handOut b ⟨⟨s.gate.minted⟩, host, capabilities⟩
            ((readied props s).resume (probing b protocol host props s).state)).events)) := by
    simp [connect, mint, probing, opening, readied_eq, hid, hopen, hprobe]
  rw [handOut_events] at hevents
  intro ended t
  simp only [t, ended, hstate, hevents, handOut_state, ← List.append_assoc]
  exact ⟨_, rfl⟩

/-- The host is tracked when the connect is over, unless it was dropped while write forwarding was
asked for: nothing that came in before that counts. -/
theorem isSome_record?_connect :
    ((connect b protocol host props s).state.gate.tracker.record? host.host).isSome =
      !TopologyPush.lastDrops (connectPushes b protocol host props s) host.host := by
  obtain ⟨capabilities, hopen, hprobe, -⟩ := exists_probed_of_connect hconnect
  rw [(connect_handedOut hopen hprobe).2]
  show ((probing b protocol host props s).state.tracker.record? host.host).isSome = _
  rw [connectPushes]
  cases hfound : (Watch.probeCapabilities b ⟨s.gate.minted⟩
    (opening b protocol host props s).state).value with
  | error e =>
    rw [probing, Watch.probeConnection_failed host hfound] at hprobe
    cases hprobe
  | ok found =>
    obtain ⟨-, hstate, -⟩ := Watch.probeConnection_probed host hfound
    rw [probing, hstate]
    refine Watch.isSome_record?_refresh b _ ?_
    rw [Watch.tracked, Tracker.record?_ensure, if_pos rfl]
    rfl

end

/-- The outcome is that the zone is unknown if a zone is preferred and none is judged. -/
theorem preference_eq_unknown_iff {settings : ZoneSettings} {judged : Option String}
    {wanted : String} :
    settings.preference judged = .unknown wanted ↔
      settings.preferred = some wanted ∧ judged = none := by
  unfold ZoneSettings.preference
  cases settings.preferred with
  | none => simp
  | some preferred =>
    cases judged with
    | none => simp
    | some zone =>
      dsimp only
      split <;> simp

/-- The zone that a connect compares with the preferred one, in whatever state it begins and with
whatever properties. The settings are those that the properties left. The zone is the one that the
host is resolved to under them, unless the last topology that came in while write forwarding was
asked for does not list the host; then there is none. The comparison is the last thing that is
logged but for the note that the connection is open. So with a preferred zone the outcome is that
the zone is unknown if and only if the host was dropped in this way, or neither the host map has an
entry for it nor its name shows a zone. -/
theorem connect_judges {config : Config} {gate : Gate} (hnew : Gate.ofConfig config = .ok gate)
    (world : W) (ops : List (Operation W)) {protocol : String} {host : HostSpec}
    {props : Properties} {connection : Connection}
    (hconnect :
      (connect b protocol host props (after b ⟨gate, world⟩ ops)).value = .ok connection) :
    let s := after b ⟨gate, world⟩ ops
    let ended := connect b protocol host props s
    let settings := (s.gate.tracker.replay (propertyChanges props)).zones
    let dropped := TopologyPush.lastDrops (connectPushes b protocol host props s) host.host
    let judged := if dropped then none else settings.resolve host.host
    ended.state.gate.tracker.zones = settings ∧
      (ended.state.gate.tracker.record? host.host).bind (·.zone) = judged ∧
      (∃ earlier, ended.events = earlier ++
        (judgement host settings judged (b.url ended.state.world connection.id)).map .logged) ∧
      ∀ wanted, settings.preference judged = .unknown wanted ↔
        settings.preferred = some wanted ∧
          (dropped = true ∨
            settings.hosts.get? host.host = none ∧ Zone.ofHostName host.host = none) := by
  intro s ended settings dropped judged
  obtain ⟨hzones, hcurrent⟩ := zones_perform b (.connect protocol host props) s
  have hzones : ended.state.gate.tracker.zones = settings := hzones
  have hcurrent : ended.state.gate.tracker.ZonesCurrent :=
    hcurrent (zonesCurrent_after b hnew world ops)
  have htracked : (ended.state.gate.tracker.record? host.host).isSome = !dropped :=
    isSome_record?_connect hconnect
  -- The zone is read off the record as it is after the probe, when there may be none any more.
  have hjudged : (ended.state.gate.tracker.record? host.host).bind (·.zone) = judged := by
    cases hr : ended.state.gate.tracker.record? host.host with
    | none =>
      rw [hr] at htracked
      have hdropped : dropped = true := by simpa using htracked
      rw [show judged = none from if_pos hdropped]
      rfl
    | some r =>
      rw [hr] at htracked
      have hdropped : dropped = false := by simpa using htracked
      have hresolved : judged = settings.resolve host.host := if_neg (by simp [hdropped])
      rw [hresolved, ← hzones]
      exact hcurrent host.host r hr
  refine ⟨hzones, hjudged, ?_, fun wanted => ?_⟩
  · have hevents := connect_events hconnect
    rw [← hzones, ← hjudged]
    exact hevents
  · rw [preference_eq_unknown_iff]
    refine and_congr_right fun _ => ?_
    cases hdropped : dropped with
    | true =>
      rw [show judged = none from if_pos hdropped]
      simp
    | false =>
      have hresolved : judged = settings.resolve host.host := if_neg (by simp [hdropped])
      rw [hresolved, ZoneSettings.resolve, Option.or_eq_none_iff]
      simp

/-- A reader whose name shows its zone. -/
def zonedReader : HostSpec := ⟨"r.us-east-1a.net", 5432, .reader⟩

/-- The properties of a connect that prefers this zone. -/
def zonePreferred : Properties := .ofList [(Properties.preferredAz, "us-east-1a")]

/-- The reader is listed by the topology that comes in, so its zone is judged. -/
theorem connect_judges_listed :
    let b := Backend.moving [zonedReader]
    let ended := connect b "jdbc" zonedReader zonePreferred ⟨.plain, 0⟩
    .logged (Log.info "Connecting to host in preferred AZ"
      [("host", .text "r.us-east-1a.net"), ("az", .text "us-east-1a")]) ∈ ended.events := by
  intro b ended
  have hopened : ended.value.isOk = true := by decide +kernel
  obtain ⟨connection, hconnect⟩ : ∃ connection, ended.value = .ok connection := by
    cases hvalue : ended.value with
    | error e =>
      rw [hvalue] at hopened
      cases hopened
    | ok connection => exact ⟨connection, rfl⟩
  obtain ⟨-, -, ⟨earlier, hevents⟩, -⟩ :=
    connect_judges b Gate.ofConfig_plain 0 [] hconnect
  have hended : ended.events = _ := hevents
  rw [hended]
  refine List.mem_append_right _ (List.mem_map_of_mem (List.mem_append_left _ ?_))
  decide +kernel

/-- The writer alone is listed by the topology that comes in. The zone of the reader is not known to
the connect then, although the name of the reader shows the zone that is preferred. -/
theorem dropped_host_unjudged :
    let b := Backend.moving [⟨"w.us-east-1a.net", 5432, .writer⟩]
    let ended := connect b "jdbc" zonedReader zonePreferred ⟨.plain, 0⟩
    let zones := ended.state.gate.tracker.zones
    ended.value.isOk = true ∧
      zones.resolve zonedReader.host = some "us-east-1a" ∧
      zones.preference (zones.resolve zonedReader.host) = .preferred "us-east-1a" ∧
      .logged (Log.info "Connecting to host whose AZ cannot be determined"
        [("host", .text "r.us-east-1a.net"), ("preferred_az", .text "us-east-1a")]) ∈
          ended.events := by
  decide +kernel

end Site

end ClusterGate
