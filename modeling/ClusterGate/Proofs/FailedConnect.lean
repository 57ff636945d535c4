import ClusterGate.Driver.Scripted
import ClusterGate.Proofs.Elsewhere
import ClusterGate.Proofs.SessionHistory

/-!
# Connects that fail

A connect fails in two places only: the driver does not open the connection, or the version query
fails on it. What the other queries answer is no reason, and neither is a zone property. A connect
that fails asks for nothing more than to close what was opened, and of what it changed only the zone
settings are left (`Site.failed_connect_traceless`).

While the driver is asked, topologies may come in. They are taken in as they would have been without
the connect, so what a table is compared with is the table before that takes in the same topologies.
-/

namespace ClusterGate

/-! ## Tables that differ in zones -/

/-- The same is known of the cluster apart from zones: the same hosts are tracked, with the same
roles and the same outcomes and times of probes. -/
structure Tracker.LikeButZones (t t' : Tracker) : Prop where
  interval : t'.interval = t.interval
  featureEngine : t'.featureEngine = t.featureEngine
  sight : ∀ h, t'.sight h = t.sight h

namespace Tracker.LikeButZones

variable {t t' : Tracker}

/-- The same topologies lead to tables that differ in zones again. -/
theorem receiveAll (h : LikeButZones t t') (pushes : List TopologyPush) :
    LikeButZones (t.receiveAll pushes) (t'.receiveAll pushes) := by
  constructor
  · rw [interval_receiveAll, interval_receiveAll, h.interval]
  · rw [featureEngine_receiveAll, featureEngine_receiveAll, h.featureEngine]
  · intro host
    rw [receiveAll_eq_replay, receiveAll_eq_replay, sight_replay, sight_replay, h.sight]

/-- Zone properties change zones only. -/
theorem propertyChanges (t : Tracker) (props : Properties) :
    LikeButZones t (t.replay (Site.propertyChanges props)) := by
  refine ⟨t.interval_replay _, ?_, Site.sight_propertyChanges t props⟩
  rw [Site.propertyChanges]
  cases props.effective? Properties.preferredAz <;>
    cases props.effective? Properties.hostAzMap <;> rfl

end Tracker.LikeButZones

/-! ## Version queries that fail -/

namespace Watch

variable {W : Type} {b : Backend W} {id : ConnectionId} {s : Watch W}

/-- When the version query fails nothing else is asked. -/
theorem probeCapabilities_failed {e : DriverError}
    (h : (query b id versionQuery s).value = .error e) :
    let probed := probeCapabilities b id s
    probed.value = .error e ∧ probed.state = (query b id versionQuery s).state ∧
      Event.contacts probed.events = [.called id .probe (.executeQuery versionQuery)] := by
  have hquery := contacts_query b id versionQuery s
  simp [probeCapabilities, h, hquery]

/-- Whatever else the server answers, it is probed when it answers the version query. -/
theorem probeCapabilities_answered {result : QueryResult}
    (h : (query b id versionQuery s).value = .ok result) :
    ∃ capabilities, (probeCapabilities b id s).value = .ok capabilities := by
  cases hline : result.firstValue? with
  | none => exact ⟨.unknown, by simp [probeCapabilities, h, hline]⟩
  | some line =>
    refine ⟨(capabilitiesOf b id line (query b id versionQuery s).state).value, ?_⟩
    simp [probeCapabilities, h, hline]

end Watch

/-! ## The gate that is left -/

/-- A connection that was not begun yet has no session to be cleared. -/
theorem Gate.Recorded.clear_fresh {g : Gate} {mode : ConnectionId → Option Bool}
    (h : g.Recorded mode) : g.sessions.clear ⟨g.minted⟩ = g.sessions := by
  apply Sessions.clear_of_unset
  rw [h.entry, h.numbered.connection?_fresh (Nat.le_refl _)]
  rfl

/-- What is left of a gate when a connect has failed while `pushes` came in: a lifetime was begun,
and of the table zones alone can differ from what the topologies made of it. -/
structure Gate.Untraced (g g' : Gate) (props : Properties) (pushes : List TopologyPush) : Prop where
  config : g'.config = g.config
  space : g'.space = g.space
  handles : g'.handles = g.handles
  sessions : g'.sessions = g.sessions
  minted : g'.minted = g.minted + 1
  /-- The zone properties are taken over first, and the topologies come in then. -/
  tracker : g'.tracker = (g.tracker.replay (Site.propertyChanges props)).receiveAll pushes
  table : (g.tracker.receiveAll pushes).LikeButZones g'.tracker

namespace Site

variable {W : Type}

/-- A connect to a host has failed with an error of the driver, after these driver calls. -/
structure ConnectFailed (s : Site W) (host : HostSpec) (props : Properties) (source : DriverError)
    (contacts : List Event) (pushes : List TopologyPush) (world : W)
    (ended : Step Event (Site W) (Except CallError Connection)) : Prop where
  value : ended.value = .error (.connectFailed host.host source)
  contacts : Event.contacts ended.events = contacts
  world : ended.state.world = world
  gate : s.gate.Untraced ended.state.gate props pushes

variable {b : Backend W} {protocol : String} {host : HostSpec} {props : Properties} {s : Site W}

/-- Wherever a connect fails, the session that is cleared is one that nobody has. -/
theorem untraced_of_failed {mode : ConnectionId → Option Bool} (hrecorded : s.gate.Recorded mode)
    {watch : Watch W} {pushes : List TopologyPush}
    (htracker : watch.tracker =
      (s.gate.tracker.replay (propertyChanges props)).receiveAll pushes) :
    s.gate.Untraced
      (clearAttributes ⟨s.gate.minted⟩ ((readied props s).resume watch)).state.gate props
      pushes := by
  have hconfined : Confined (applyProperties props : Act Event (Site W) Unit) :=
    confined_applyProperties props
  have halike := hconfined.alike s
  have hlike := (Tracker.LikeButZones.propertyChanges s.gate.tracker props).receiveAll pushes
  rw [← htracker] at hlike
  rw [clearAttributes_state, readied_eq]
  refine ⟨halike.config, halike.space, halike.handles, ?_, rfl, htracker, hlike⟩
  show (applyProperties props s).state.gate.sessions.clear ⟨s.gate.minted⟩ = s.gate.sessions
  rw [hconfined.sessions, hrecorded.clear_fresh]

/-! ## The two ways to fail -/

section
variable {mode : ConnectionId → Option Bool} (hrecorded : s.gate.Recorded mode)
include hrecorded

/-- A connect whose connection the driver does not open fails without asking anything else. -/
theorem connectFailed_of_unopened {e : DriverError} :
    let id : ConnectionId := ⟨s.gate.minted⟩
    let opened := b.connect s.world id protocol host props
    opened.2.result = .error e →
      s.ConnectFailed host props e [.opened id protocol host] opened.2.pushes opened.1
        (connect b protocol host props s) := by
  intro id opened hrefused
  obtain ⟨hvalue, hstate⟩ := opening_eq b protocol host props s
  have hopen : (opening b protocol host props s).value = .error e := hvalue.trans hrefused
  obtain ⟨hresult, hended⟩ := connect_refused hopen
  constructor
  · exact hresult
  · rw [contacts_connect, hopen]
  · rw [hended, hstate]
    rfl
  · rw [hended, hstate]
    exact untraced_of_failed hrecorded rfl

/-- A connect whose version query fails closes its connection again. -/
theorem connectFailed_of_unprobed {e : DriverError} :
    let id : ConnectionId := ⟨s.gate.minted⟩
    let opened := b.connect s.world id protocol host props
    let version := b.call opened.1 id (.executeQuery versionQuery)
    let closed := b.call version.1 id .close
    opened.2.result = .ok () → version.2.result = .error e →
      s.ConnectFailed host props e
        [.opened id protocol host, .called id .probe (.executeQuery versionQuery),
          .called id .probe .close]
        (opened.2.pushes ++ version.2.pushes ++ closed.2.pushes) closed.1
        (connect b protocol host props s) := by
  intro id opened version closed hopened hversion
  obtain ⟨hvalue, hstate⟩ := opening_eq b protocol host props s
  have hopen : (opening b protocol host props s).value = .ok () := hvalue.trans hopened
  have hquery : (Watch.query b id versionQuery (opening b protocol host props s).state).value =
      .error e := by
    rw [hstate]
    exact hversion
  obtain ⟨hfailed, hprobed, hasked⟩ := Watch.probeCapabilities_failed hquery
  have hprobing : probing b protocol host props s = _ := Watch.probeConnection_failed host hfailed
  have hprobe : (probing b protocol host props s).value = .error e := by rw [hprobing]
  obtain ⟨hresult, hended⟩ := connect_abandoned hopen hprobe
  -- The version query and the close take in topologies one after the other.
  have hlast : (Watch.call b .probe id .close (probing b protocol host props s).state).state =
      ⟨(s.gate.tracker.replay (propertyChanges props)).receiveAll
        (opened.2.pushes ++ version.2.pushes ++ closed.2.pushes), closed.1⟩ := by
    have hstate' : (probing b protocol host props s).state =
        ⟨((s.gate.tracker.replay (propertyChanges props)).receiveAll opened.2.pushes).receiveAll
          version.2.pushes, version.1⟩ := by
      rw [hprobing, hprobed, hstate]
      rfl
    rw [hstate', Tracker.receiveAll_append, Tracker.receiveAll_append]
    rfl
  constructor
  · exact hresult
  · rw [contacts_connect, hopen, hprobe, hprobing, hasked]
    rfl
  · rw [hended, hlast]
    rfl
  · rw [hended, hlast]
    exact untraced_of_failed hrecorded rfl

end

/-- A connection that is opened and answers the version query is probed. -/
theorem probed_of_answered {result : QueryResult} :
    let id : ConnectionId := ⟨s.gate.minted⟩
    let opened := b.connect s.world id protocol host props
    let version := b.call opened.1 id (.executeQuery versionQuery)
    opened.2.result = .ok () → version.2.result = .ok result →
      (opening b protocol host props s).value = .ok () ∧ ∃ capabilities,
        (Watch.probeCapabilities b id (opening b protocol host props s).state).value =
          .ok capabilities := by
  intro id opened version hopened hversion
  obtain ⟨hvalue, hstate⟩ := opening_eq b protocol host props s
  have hquery : (Watch.query b id versionQuery (opening b protocol host props s).state).value =
      .ok result := by
    rw [hstate]
    exact hversion
  exact ⟨hvalue.trans hopened, Watch.probeCapabilities_answered hquery⟩

/-- Such a connection is handed out. -/
theorem connect_succeeds {result : QueryResult} :
    let id : ConnectionId := ⟨s.gate.minted⟩
    let opened := b.connect s.world id protocol host props
    let version := b.call opened.1 id (.executeQuery versionQuery)
    opened.2.result = .ok () → version.2.result = .ok result →
      ∃ connection, (connect b protocol host props s).value = .ok connection := by
  intro id opened version hopened hversion
  obtain ⟨hopen, capabilities, hanswered⟩ := probed_of_answered hopened hversion
  have hprobe : (probing b protocol host props s).value = .ok capabilities :=
    (Watch.probeConnection_probed host hanswered).1
  exact ⟨_, (connect_handedOut hopen hprobe).1⟩

/-! ## Connects in a run -/

/-- Whatever a run has done to a gate, and whatever the driver does: a connect fails exactly if the
driver does not open the connection or the version query fails on it. The error names the host and
has the driver's error as its source, also if the connection cannot be closed. Of the driver nothing
is asked but to open the connection, or to open it, for its version, and to close it. Sessions,
handles and settings stay as they were, and so does everything that is known of hosts but their
zones, unless topologies come in meanwhile. -/
theorem failed_connect_traceless (b : Backend W) {config : Config} {gate : Gate}
    (hnew : Gate.ofConfig config = .ok gate) (world : W) (ops : List (Operation W))
    (protocol : String) (host : HostSpec) (props : Properties) :
    let s := after b ⟨gate, world⟩ ops
    let id : ConnectionId := ⟨s.gate.minted⟩
    let opened := b.connect s.world id protocol host props
    let version := b.call opened.1 id (.executeQuery versionQuery)
    let closed := b.call version.1 id .close
    let ended := connect b protocol host props s
    ((∃ e, ended.value = .error e) ↔
        (∃ e, opened.2.result = .error e) ∨
          opened.2.result = .ok () ∧ ∃ e, version.2.result = .error e) ∧
      (∀ e, opened.2.result = .error e →
        s.ConnectFailed host props e [.opened id protocol host] opened.2.pushes opened.1 ended) ∧
      (∀ e, opened.2.result = .ok () → version.2.result = .error e →
        s.ConnectFailed host props e
          [.opened id protocol host, .called id .probe (.executeQuery versionQuery),
            .called id .probe .close]
          (opened.2.pushes ++ version.2.pushes ++ closed.2.pushes) closed.1 ended) := by
  intro s id opened version closed ended
  have hrecorded : s.gate.Recorded (modeOf b ⟨gate, world⟩ ops) := recorded_after b hnew world ops
  have hunopened (e : DriverError) (hopened : opened.2.result = .error e) :=
    connectFailed_of_unopened hrecorded hopened
  have hunprobed (e : DriverError) (hopened : opened.2.result = .ok ())
      (hversion : version.2.result = .error e) :=
    connectFailed_of_unprobed hrecorded hopened hversion
  refine ⟨⟨?_, ?_⟩, hunopened, hunprobed⟩
  · rintro ⟨e, herror⟩
    cases hopened : opened.2.result with
    | error source => exact .inl ⟨source, rfl⟩
    | ok _ =>
      cases hversion : version.2.result with
      | error source => exact .inr ⟨rfl, source, rfl⟩
      | ok result =>
        -- Nothing after the version query makes a connect fail.
        obtain ⟨connection, hvalue⟩ := connect_succeeds hopened hversion
        rw [hvalue] at herror
        cases herror
  · rintro (⟨e, hopened⟩ | ⟨hopened, e, hversion⟩)
    · exact ⟨_, (hunopened e hopened).value⟩
    · exact ⟨_, (hunprobed e hopened hversion).value⟩

open ScriptedCluster (backend)

/-- A server that fails the version query, and whose connections cannot be closed. -/
def speechlessCluster : ScriptedCluster :=
  let failing := Reply.fails (.queryFailed "version() unavailable")
  (ScriptedCluster.mk ∅ ∅ true 0).layDown "db" { Behaviour.healthy with
    replies := (∅ : Dict String Reply).insert versionQuery failing
    closeFault := some (.queryFailed "close failed") }

/-- A connection in strict-writer mode to another server. -/
def strictElsewhere : List (Operation ScriptedCluster) :=
  [.connect "jdbc" ⟨"other", 5432, .reader⟩ ∅,
    .call (.connection ⟨0⟩) (.execute "SET SESSION ns.strict_writer = true")]

/-- The error is that of the version query, and the session of the other connection stays. -/
theorem failed_connect_traceless_speechless :
    let s := after backend ⟨.plain, speechlessCluster⟩ strictElsewhere
    let props : Properties := (∅ : Properties).insert Properties.preferredAz "eu-west-1a"
    let ended := connect backend "jdbc" ⟨"db", 5432, .reader⟩ props s
    ended.value = .error (.connectFailed "db" (.queryFailed "version() unavailable")) ∧
      Event.contacts ended.events =
        [.opened ⟨1⟩ "jdbc" ⟨"db", 5432, .reader⟩,
          .called ⟨1⟩ .probe (.executeQuery versionQuery), .called ⟨1⟩ .probe .close] ∧
      ended.state.gate.sessions.size = 1 ∧
      ended.state.gate.tracker.sight "db" = none := by
  let host : HostSpec := ⟨"db", 5432, .reader⟩
  let props : Properties := (∅ : Properties).insert Properties.preferredAz "eu-west-1a"
  have hrun :
      let s := after backend ⟨.plain, speechlessCluster⟩ strictElsewhere
      let id : ConnectionId := ⟨s.gate.minted⟩
      let opened := backend.connect s.world id "jdbc" host props
      let version := backend.call opened.1 id (.executeQuery versionQuery)
      let closed := backend.call version.1 id .close
      id = ⟨1⟩ ∧ opened.2.result = .ok () ∧
        version.2.result = .error (.queryFailed "version() unavailable") ∧
        opened.2.pushes ++ version.2.pushes ++ closed.2.pushes = [] ∧
        s.gate.sessions.size = 1 ∧ s.gate.tracker.sight "db" = none := by
    decide +kernel
  have hfailed := (failed_connect_traceless backend Gate.ofConfig_plain speechlessCluster
    strictElsewhere "jdbc" host props).2.2
  -- The rest holds of every site of which this is known.
  revert hrun hfailed
  generalize after backend ⟨.plain, speechlessCluster⟩ strictElsewhere = s
  rintro ⟨hid, hopened, hversion, hquiet, hsize, huntracked⟩ hfailed
  obtain ⟨hvalue, hcontacts, -, hgate⟩ := hfailed _ hopened hversion
  rw [hid] at hcontacts
  refine ⟨hvalue, hcontacts, ?_, ?_⟩
  · rw [hgate.sessions]
    exact hsize
  · have htable := hgate.table.sight "db"
    rw [hquiet, Tracker.receiveAll_nil, huntracked] at htable
    exact htable

end Site

end ClusterGate
