import ClusterGate.Proofs.Contacts
import ClusterGate.Proofs.Sight
import ClusterGate.Proofs.Strictness
import Mathlib.Data.List.Infix

/-!
# The connections to one host in two worlds

Take away from a world all connections but those to one host. What is asked of the connections that
are left goes the same way, under other lifetimes: a connection is numbered among those to its own
host now (`ConnectionId.alone`). Actions that do the same from states that look alike to the host
match (`Act.Matches`). This is closed under sequencing, so for most actions it is read off the way
they are put together.

What is assumed of the world for this is that every connection depends on its own host and its own
calls (`Backend.Isolation`).
-/

namespace ClusterGate

/-! ## Lifetimes -/

namespace ConnectionId

variable (hosts : List String) (host : String)

/-- The connection goes to this host, where `hosts` are those of all connections in the order of
their lifetimes. -/
def goesTo (id : ConnectionId) : Bool := hosts[id.number]? = some host

/-- The lifetime of a connection when connections to other hosts are left out of account. -/
def alone (id : ConnectionId) : ConnectionId := ⟨(hosts.take id.number).count host⟩

variable {hosts host}

/-- A connection goes to the host at its place. -/
theorem goesTo_mk {n : Nat} {opened : String} (h : hosts[n]? = some opened) :
    goesTo hosts host ⟨n⟩ = decide (opened = host) := by
  simp [goesTo, h]

/-- Each connection to the host counts for the later ones. -/
theorem number_alone_lt {id later : ConnectionId} (hid : id.goesTo hosts host = true)
    (hlt : id.number < later.number) :
    (id.alone hosts host).number < (later.alone hosts host).number := by
  have hhost : hosts[id.number]? = some host := of_decide_eq_true hid
  have hnext : (hosts.take (id.number + 1)).count host =
      (hosts.take id.number).count host + 1 := by
    rw [List.take_add_one, List.count_append, hhost]
    simp
  have hprefix : hosts.take (id.number + 1) <+: hosts.take later.number :=
    List.take_isPrefix_take.mpr (.inl hlt)
  have hle := hprefix.sublist.count_le host
  show (hosts.take id.number).count host < (hosts.take later.number).count host
  omega

/-- No two connections to the host get the same lifetime. -/
theorem alone_inj {id other : ConnectionId} (hid : id.goesTo hosts host = true)
    (hother : other.goesTo hosts host = true) :
    id.alone hosts host = other.alone hosts host ↔ id = other := by
  constructor
  · intro heq
    rcases Nat.lt_trichotomy id.number other.number with hlt | hsame | hgt
    · have hless := number_alone_lt hid hlt
      rw [heq] at hless
      exact absurd hless (Nat.lt_irrefl _)
    · cases id
      cases other
      exact congrArg _ hsame
    · have hless := number_alone_lt hother hgt
      rw [heq] at hless
      exact absurd hless (Nat.lt_irrefl _)
  · rintro rfl
    rfl

end ConnectionId

/-! ## Matching actions -/

def Event.renamed (rename : ConnectionId → ConnectionId) : Event → Event
  | opened id protocol host => opened (rename id) protocol host
  | called id origin request => called (rename id) origin request
  | logged entry => logged entry

/-- Two outcomes return the same after the same driver calls under other lifetimes, and leave
related states. -/
structure Step.Matches {σ α : Type} (rename : ConnectionId → ConnectionId) (R : σ → σ → Prop)
    (first second : Step Event σ α) : Prop where
  value : second.value = first.value
  contacts : Event.contacts second.events =
    (Event.contacts first.events).map (Event.renamed rename)
  state : R first.state second.state

/-- From related states the second action does what the first one does, under other lifetimes. -/
def Act.Matches {σ α : Type} (rename : ConnectionId → ConnectionId) (R : σ → σ → Prop)
    (x y : Act Event σ α) : Prop :=
  ∀ ⦃s s'⦄, R s s' → (x s).Matches rename R (y s')

namespace Act.Matches

variable {σ α β : Type} {rename : ConnectionId → ConnectionId} {R : σ → σ → Prop}

theorem pure (a : α) : Matches rename R (Pure.pure a : Act Event σ α) (Pure.pure a) :=
  fun _ _ hR => ⟨rfl, rfl, hR⟩

/-- It does not matter what is logged. -/
theorem logged (entries entries' : List LogEntry) :
    Matches rename R (Act.emit (entries.map .logged)) (Act.emit (entries'.map .logged)) := by
  intro s s' hR
  refine ⟨rfl, ?_, hR⟩
  simp

theorem bind {x y : Act Event σ α} (hx : Matches rename R x y) {f g : α → Act Event σ β}
    (hf : ∀ a, Matches rename R (f a) (g a)) : Matches rename R (x >>= f) (y >>= g) := by
  intro s s' hR
  have hfirst := hx hR
  have hsecond := hf (x s).value hfirst.state
  rw [← hfirst.value] at hsecond
  refine ⟨?_, ?_, ?_⟩
  · rw [Act.bind_value, Act.bind_value, hsecond.value, hfirst.value]
  · rw [Act.bind_events, Act.bind_events, Event.contacts_append, Event.contacts_append,
      List.map_append, hfirst.contacts, hsecond.contacts, hfirst.value]
  · have hstate := hsecond.state
    rw [hfirst.value] at hstate
    rw [Act.bind_state, Act.bind_state, hfirst.value]
    exact hstate

end Act.Matches

/-! ## Worlds without other hosts -/

/-- Every connection depends on its own host and its own calls. Twins are a world and one that shows
the connections to the host alone: these answer the same when the time is the same, and what is done
on another connection makes them no different. -/
structure Backend.Isolation {W : Type} (b : Backend W) (hosts : List String) (host : String) where
  twin : W → W → Prop
  /-- The world at another time, if nothing happens until then. -/
  wait : W → Nat → W
  /-- The world that shows the connections to the host alone. -/
  seen : W → W
  connect : ∀ {w w' id}, twin w w' → b.now w' = b.now w → id.goesTo hosts host = true →
    ∀ protocol spec props, spec.host = host →
      let opened := b.connect w id protocol spec props
      let opened' := b.connect w' (id.alone hosts host) protocol spec props
      opened'.2.result = opened.2.result ∧ opened'.2.pushes = opened.2.pushes ∧
        twin opened.1 opened'.1 ∧ b.now opened'.1 = b.now opened.1
  call : ∀ {w w' id}, twin w w' → b.now w' = b.now w → id.goesTo hosts host = true → ∀ request,
    let called := b.call w id request
    let called' := b.call w' (id.alone hosts host) request
    called'.2.result = called.2.result ∧ called'.2.pushes = called.2.pushes ∧
      twin called.1 called'.1 ∧ b.now called'.1 = b.now called.1
  unseenConnect : ∀ {w w' id}, twin w w' → id.goesTo hosts host = false →
    ∀ protocol spec props, twin (b.connect w id protocol spec props).1 w'
  unseenCall : ∀ {w w' id}, twin w w' → id.goesTo hosts host = false →
    ∀ request, twin (b.call w id request).1 w'
  twin_wait : ∀ {w w'}, twin w w' → ∀ time, twin w (wait w' time)
  now_wait : ∀ w time, b.now (wait w time) = time
  twin_seen : ∀ w, twin w (seen w)
  now_seen : ∀ w, b.now (seen w) = b.now w

namespace Watch

variable {W : Type} {b : Backend W} {hosts : List String} {host : String}

/-- The same is known of the host in twin worlds at the same time. -/
structure Alike (i : b.Isolation hosts host) (s s' : Watch W) : Prop where
  interval : s'.tracker.interval = s.tracker.interval
  sight : s'.tracker.sight host = s.tracker.sight host
  world : i.twin s.world s'.world
  now : b.now s'.world = b.now s.world

variable {i : b.Isolation hosts host} {id : ConnectionId}

/-- Two actions on what is known do the same, if the second one is about the connections that are
left. -/
abbrev Matches {α : Type} (i : b.Isolation hosts host) (x y : Act Event (Watch W) α) : Prop :=
  x.Matches (·.alone hosts host) (Alike i) y

/-! ### Driver calls -/

/-- The same topologies are taken in. -/
theorem Alike.receiveAll {s s' : Watch W} (h : Alike i s s') {pushes pushes' : List TopologyPush}
    (hpushes : pushes' = pushes) {w w' : W} (hworld : i.twin w w') (hnow : b.now w' = b.now w) :
    Alike i ⟨s.tracker.receiveAll pushes, w⟩ ⟨s'.tracker.receiveAll pushes', w'⟩ := by
  refine ⟨?_, ?_, hworld, hnow⟩
  · rw [Tracker.interval_receiveAll, Tracker.interval_receiveAll, h.interval]
  · rw [hpushes, Tracker.receiveAll_eq_replay, Tracker.receiveAll_eq_replay, Tracker.sight_replay,
      Tracker.sight_replay, h.sight]

/-- Addresses are for the log alone. -/
theorem matches_noted {α : Type} (id other : ConnectionId)
    (entries entries' : String → List LogEntry) (a : α) :
    Matches i
      (do
        let url ← url b id
        log (entries url)
        return a)
      (do
        let url ← url b other
        log (entries' url)
        return a) := by
  intro s s' h
  refine ⟨rfl, ?_, h⟩
  simp

section
variable (hid : id.goesTo hosts host = true)
include hid

theorem matches_call (origin : Origin) (request : Request) :
    Matches i (call b origin id request) (call b origin (id.alone hosts host) request) := by
  intro s s' h
  obtain ⟨hresult, hpushes, hworld, hnow⟩ := i.call h.world h.now hid request
  refine ⟨hresult, ?_, ?_⟩
  · rw [contacts_call, contacts_call]
    rfl
  · rw [call_state, call_state]
    exact h.receiveAll hpushes hworld hnow

theorem matches_connect (protocol : String) {spec : HostSpec} (hspec : spec.host = host)
    (props : Properties) :
    Matches i (connect b id protocol spec props)
      (connect b (id.alone hosts host) protocol spec props) := by
  intro s s' h
  obtain ⟨hresult, hpushes, hworld, hnow⟩ := i.connect h.world h.now hid protocol spec props hspec
  refine ⟨hresult, ?_, h.receiveAll hpushes hworld hnow⟩
  simp [connect, takeIn, Event.renamed]

theorem matches_query (sql : String) :
    Matches i (query b id sql) (query b (id.alone hosts host) sql) :=
  matches_call hid .probe (.executeQuery sql)

/-! ### Probes -/

theorem matches_probeForwarding :
    Matches i (probeForwarding b id) (probeForwarding b (id.alone hosts host)) := by
  unfold probeForwarding
  refine .bind (matches_query hid forwardingQuery) fun answer => ?_
  cases answer with
  | ok result => exact .pure _
  | error e => exact matches_noted id _ _ _ false

theorem matches_probeMarker :
    Matches i (probeMarker b id) (probeMarker b (id.alone hosts host)) := by
  unfold probeMarker
  refine .bind (matches_query hid markerQuery) fun answer => ?_
  cases answer with
  | ok result => exact .pure _
  | error e => exact .bind (.logged _ _) fun _ => .pure _

theorem matches_capabilitiesOf (line : String) :
    Matches i (capabilitiesOf b id line) (capabilitiesOf b (id.alone hosts host) line) := by
  unfold capabilitiesOf
  refine .bind (.logged _ _) fun _ => ?_
  dsimp only
  split
  · refine .bind (matches_probeMarker hid) fun cluster => ?_
    exact .bind (.logged _ _) fun _ => .pure _
  · refine .bind (.pure false) fun cluster => ?_
    exact .bind (.logged _ _) fun _ => .pure _

theorem matches_probeCapabilities :
    Matches i (probeCapabilities b id) (probeCapabilities b (id.alone hosts host)) := by
  unfold probeCapabilities
  refine .bind (matches_query hid versionQuery) fun answer => ?_
  cases answer with
  | error e => exact .pure _
  | ok result =>
    dsimp only
    cases result.firstValue? with
    | none => exact matches_noted id _ _ _ _
    | some line => exact .bind (matches_capabilitiesOf hid line) fun _ => .pure _

end

/-! ### Bringing a record up to date -/

/-- Whether a refresh asks depends on time and on what is known of the host apart from its zone. -/
theorem asksForwarding_eq (b : Backend W) (host : String) (s : Watch W) :
    asksForwarding b host s = (s.tracker.sight host).any fun r =>
      !r.isWriter && r.isStale (b.now s.world) s.tracker.interval := by
  rw [asksForwarding, Tracker.sight, Option.any_map]
  rfl

theorem Alike.asksForwarding {s s' : Watch W} (h : Alike i s s') :
    Watch.asksForwarding b host s' = Watch.asksForwarding b host s := by
  rw [asksForwarding_eq, asksForwarding_eq, h.sight, h.interval, h.now]

/-- The outcome of a probe is written down in both tables. -/
theorem Alike.settle {s s' : Watch W} (h : Alike i s s') (enabled : Bool) :
    Alike i ⟨s.tracker.settle host enabled (b.now s.world), s.world⟩
      ⟨s'.tracker.settle host enabled (b.now s'.world), s'.world⟩ := by
  refine ⟨?_, ?_, h.world, h.now⟩
  · rw [Tracker.settle_eq, Tracker.settle_eq s.tracker]
    exact h.interval
  · rw [Tracker.sight_settle, Tracker.sight_settle, h.sight, h.now]

/-- What is known of the engine and of zones makes no difference, and the host is tracked in both
tables. -/
theorem Alike.tracked {s s' : Watch W} (h : Alike i s s') {spec : HostSpec}
    (hspec : spec.host = host) (capabilities : Capabilities) :
    Alike i (Watch.tracked spec capabilities s) (Watch.tracked spec capabilities s') := by
  refine ⟨?_, ?_, h.world, h.now⟩
  · rw [Watch.tracked, Watch.tracked, Tracker.ensure_eq, Tracker.ensure_eq { s.tracker with
      featureEngine := capabilities.hasFeatures }]
    exact h.interval
  · have hsight : Tracker.sight { s'.tracker with featureEngine := capabilities.hasFeatures } host =
        Tracker.sight { s.tracker with featureEngine := capabilities.hasFeatures } host := h.sight
    rw [Watch.tracked, Watch.tracked, hspec, Tracker.sight_ensure, Tracker.sight_ensure, hsight]

section
variable (hid : id.goesTo hosts host = true)
include hid

/-- Records differ in their zones, so of a refresh only the question and the state are compared. -/
theorem alike_refresh {s s' : Watch W} (h : Alike i s s') :
    let refreshed := refresh b id host s
    let refreshed' := refresh b (id.alone hosts host) host s'
    Event.contacts refreshed'.events =
        (Event.contacts refreshed.events).map (Event.renamed (·.alone hosts host)) ∧
      Alike i refreshed.state refreshed'.state := by
  intro refreshed refreshed'
  constructor
  · rw [contacts_refresh, contacts_refresh, h.asksForwarding]
    split <;> rfl
  · rw [refresh_state, refresh_state, h.asksForwarding]
    split
    · have hasked := matches_probeForwarding hid h
      rw [hasked.value]
      exact hasked.state.settle _
    · exact h

/-- Probing a connection to the host does the same in both worlds. -/
theorem matches_probeConnection {spec : HostSpec} (hspec : spec.host = host) :
    Matches i (probeConnection b id spec) (probeConnection b (id.alone hosts host) spec) := by
  subst hspec
  intro s s' h
  have hprobed := matches_probeCapabilities hid h
  have hvalue := hprobed.value
  cases hcapabilities : (probeCapabilities b id s).value with
  | error e =>
    rw [hcapabilities] at hvalue
    rw [probeConnection_failed spec hcapabilities, probeConnection_failed spec hvalue]
    exact ⟨rfl, hprobed.contacts, hprobed.state⟩
  | ok capabilities =>
    rw [hcapabilities] at hvalue
    obtain ⟨hresult, hstate, hcontacts⟩ := probeConnection_probed spec hcapabilities
    obtain ⟨hresult', hstate', hcontacts'⟩ := probeConnection_probed spec hvalue
    obtain ⟨hasked, hrefreshed⟩ := alike_refresh hid (hprobed.state.tracked rfl capabilities)
    refine ⟨hresult'.trans hresult.symm, ?_, ?_⟩
    · rw [hcontacts, hcontacts', List.map_append, hprobed.contacts, hasked]
    · rw [hstate, hstate']
      exact hrefreshed

end

end Watch

end ClusterGate
