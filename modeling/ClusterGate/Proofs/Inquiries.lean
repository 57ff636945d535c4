import ClusterGate.Proofs.Contacts
import ClusterGate.Proofs.History

/-!
# Queries for write forwarding

An operation asks a server for write forwarding at most once: a connect asks when its connection has
been probed, and the check of a statement asks in strict-writer mode, each about the host of the
connection. `Operation.inquiry?` is that query. This module finds it among the events of the
operation (`Site.inquirers_perform`) and among the changes that the operation makes to the host
table (`Site.probes_changes`), and says who asks (`Operation.AsksAbout`) and against which table.
-/

namespace ClusterGate

/-! ## Among events and changes -/

namespace Event

/-- The connection on which the library asks for write forwarding. -/
def inquirer? : Event → Option ConnectionId
  | .called id .probe request => if request = .executeQuery forwardingQuery then some id else none
  | _ => none

/-- The connections on which the library asks for write forwarding, one for each query. -/
def inquirers (events : List Event) : List ConnectionId := events.filterMap inquirer?

@[simp] theorem inquirers_nil : inquirers [] = [] := rfl

@[simp] theorem inquirers_append (l r : List Event) :
    inquirers (l ++ r) = inquirers l ++ inquirers r :=
  List.filterMap_append

@[simp] theorem inquirers_opened_cons (id : ConnectionId) (protocol : String) (host : HostSpec)
    (rest : List Event) : inquirers (.opened id protocol host :: rest) = inquirers rest := rfl

@[simp] theorem inquirers_caller_cons (id : ConnectionId) (request : Request) (rest : List Event) :
    inquirers (.called id .caller request :: rest) = inquirers rest := rfl

@[simp] theorem inquirers_probe_cons (id : ConnectionId) (request : Request) (rest : List Event) :
    inquirers (.called id .probe request :: rest) =
      (if request = .executeQuery forwardingQuery then [id] else []) ++ inquirers rest := by
  by_cases hforwarding : request = .executeQuery forwardingQuery <;>
    simp [inquirers, inquirer?, hforwarding]

/-- Log entries ask nothing. -/
theorem inquirers_contacts (events : List Event) :
    inquirers (contacts events) = inquirers events := by
  rw [inquirers, contacts, List.filterMap_filter, inquirers]
  congr 1
  funext e
  cases e <;> rfl

end Event

namespace Change

/-- The host whose probe has ended, and the time when the outcome is written down. -/
def probe? : Change → Option (String × Nat)
  | probed host _ time => some (host, time)
  | _ => none

def probes (changes : List Change) : List (String × Nat) := changes.filterMap probe?

@[simp] theorem probes_nil : probes [] = [] := rfl

@[simp] theorem probes_append (l r : List Change) : probes (l ++ r) = probes l ++ probes r :=
  List.filterMap_append

/-- Topologies are no probes. -/
theorem probes_of_topologies {changes : List Change} (h : ∀ c ∈ changes, c.isTopology = true) :
    probes changes = [] := by
  refine List.filterMap_eq_nil_iff.mpr fun c hc => ?_
  have htopology := h c hc
  cases c with
  | probed host enabled time => cases htopology
  | _ => rfl

end Change

/-! ## Inquiries -/

structure Inquiry where
  /-- The connection on which it is asked. -/
  asker : ConnectionId
  host : String
  /-- The changes of the host table before it. -/
  seen : List Change
  time : Nat
  /-- When the outcome is written down. -/
  settled : Nat
  deriving DecidableEq

/-- What a query adds to the probes in the history of the host table. -/
def Inquiry.outcome (q : Inquiry) : String × Nat := (q.host, q.settled)

namespace Watch

variable {W : Type} (b : Backend W) (id : ConnectionId)

/-- The query that a refresh asks, where `seen` are the changes before it. -/
def inquiry? (host : String) (seen : List Change) (s : Watch W) : Option Inquiry :=
  if asksForwarding b host s then
    some ⟨id, host, seen, b.now s.world, b.now (probeForwarding b id s).state.world⟩
  else none

section
variable {b} {id} {host : String} {seen : List Change} {s : Watch W} {q : Inquiry}

theorem inquiry?_eq_some (h : inquiry? b id host seen s = some q) :
    q.asker = id ∧ q.host = host ∧ q.seen = seen ∧ q.time = b.now s.world ∧
      asksForwarding b host s = true := by
  rw [inquiry?] at h
  split at h
  · next hasks =>
    cases h
    exact ⟨rfl, rfl, rfl, rfl, hasks⟩
  · cases h

end

/-- A refresh asks once or not at all, and on its own connection. -/
theorem inquirers_refresh (host : String) (seen : List Change) (s : Watch W) :
    Event.inquirers (refresh b id host s).events =
      ((inquiry? b id host seen s).map (·.asker)).toList := by
  rw [← Event.inquirers_contacts, contacts_refresh, inquiry?]
  cases asksForwarding b host s <;> simp

/-- For the question that it asks it writes down one outcome. -/
theorem probes_refreshChanges (host : String) (seen : List Change) (s : Watch W) :
    Change.probes (refreshChanges b id host s) =
      ((inquiry? b id host seen s).map Inquiry.outcome).toList := by
  have hquery : Change.probes (queryChanges b id forwardingQuery s) = [] :=
    Change.probes_of_topologies (isTopology_of_mem_callChanges b id _ s)
  rw [refreshChanges, inquiry?, asksForwarding]
  cases s.tracker.record? host with
  | none => rfl
  | some r =>
    rw [Option.any_some]
    dsimp only
    split
    · rw [Change.probes_append, hquery]
      rfl
    · rfl

/-! ### Probing a connection -/

/-- Finding out what a server is does not ask for write forwarding. -/
theorem inquirers_probeCapabilities (s : Watch W) :
    Event.inquirers (probeCapabilities b id s).events = [] := by
  have hversion : versionQuery ≠ forwardingQuery := by decide
  have hmarker : markerQuery ≠ forwardingQuery := by decide
  rw [← Event.inquirers_contacts, (probeCapabilities_asks b id s).2]
  cases asksMarker b id s <;> simp [hversion, hmarker]

section
variable {b} {id} {host : HostSpec} {s : Watch W}

theorem probeChanges_failed {e : DriverError} (h : (probeCapabilities b id s).value = .error e) :
    probeChanges b id host s = capabilityChanges b id s := by
  simp [probeChanges, h]

/-- The changes of a probe end with those of bringing the record of the host up to date. For a
writer these are none. -/
theorem probeChanges_probed {capabilities : Capabilities}
    (h : (probeCapabilities b id s).value = .ok capabilities) :
    probeChanges b id host s =
      capabilityChanges b id s ++
          [.featured capabilities.hasFeatures, .registered host.host host.role] ++
        refreshChanges b id host.host
          (tracked host capabilities (probeCapabilities b id s).state) := by
  generalize hfound : ({ (probeCapabilities b id s).state.tracker with
    featureEngine := capabilities.hasFeatures } : Tracker) = found
  by_cases hwriter : (found.recordOrFresh host.host host.role).isWriter = true
  · have hrecord : (found.ensure host.host host.role).record? host.host =
        some (found.recordOrFresh host.host host.role) := by
      rw [Tracker.record?_ensure, if_pos rfl]
    simp [probeChanges, refreshChanges, tracked, h, hfound, hrecord, hwriter, Tracker.needsProbe]
  · simp [probeChanges, tracked, h, hfound, hwriter]

end

end Watch

/-! ## Operations -/

namespace Site

variable {W : Type} (b : Backend W)

/-- The query that the check of a statement asks. -/
def enforceInquiry? (target : Option Connection) (method : Method) (s : Site W) : Option Inquiry :=
  match target with
  | some connection =>
    if method.runsStatement ∧ s.gate.isStrict connection.id then
      Watch.inquiry? b connection.id connection.host.host [] s.watch
    else none
  | none => none

/-- The query that a call asks. A control command that is consumed is not checked. -/
def callInquiry? (target : Option Connection) (request : Request) (s : Site W) : Option Inquiry :=
  if target.isSome ∧ (request.mode? s.gate.space).isSome then none
  else enforceInquiry? b target request.method s

/-- The query that a connect asks, when the version query did not fail. -/
def connectInquiry? (protocol : String) (host : HostSpec) (props : Properties) (s : Site W) :
    Option Inquiry :=
  let id : ConnectionId := ⟨s.gate.minted⟩
  let opened := opening b protocol host props s
  let probed := Watch.probeCapabilities b id opened.state
  match opened.value, probed.value with
  | .ok (), .ok capabilities =>
    let before :=
      propertyChanges props ++ Watch.connectChanges b id protocol host props (readied props s).watch
    let found :=
      Watch.capabilityChanges b id opened.state ++
        [.featured capabilities.hasFeatures, .registered host.host host.role]
    Watch.inquiry? b id host.host (before ++ found) (Watch.tracked host capabilities probed.state)
  | _, _ => none

end Site

/-- The query for write forwarding that an operation asks. -/
def Operation.inquiry? {W : Type} (b : Backend W) (s : Site W) : Operation W → Option Inquiry
  | .connect protocol host props => Site.connectInquiry? b protocol host props s
  | .call target request => Site.callInquiry? b (s.gate.connection? target.owner) request s
  | _ => none

/-- The operations that may ask for write forwarding, with the connection on which they ask and the
host about which they ask: a connect, once it has succeeded, and a statement in strict-writer mode.
-/
inductive Operation.AsksAbout {W : Type} (b : Backend W) (s : Site W) :
    Operation W → ConnectionId → String → Prop
  | connect {protocol : String} {host : HostSpec} {props : Properties} {connection : Connection}
    (hopen : (Site.connect b protocol host props s).value = .ok connection) :
    AsksAbout b s (.connect protocol host props) connection.id host.host
  | statement {target : Target} {request : Request} {connection : Connection}
    (hheld : s.gate.connection? target.owner = some connection)
    (hstrict : s.gate.isStrict connection.id = true)
    (hstatement : request.method.runsStatement = true)
    (hcommand : request.mode? s.gate.space = none) :
    AsksAbout b s (.call target request) connection.id connection.host.host

namespace Site

variable {W : Type} {b : Backend W}

/-! ### Which operations ask -/

theorem enforceInquiry?_eq_some {target : Option Connection} {method : Method} {s : Site W}
    {q : Inquiry} (h : enforceInquiry? b target method s = some q) :
    ∃ connection, target = some connection ∧ method.runsStatement = true ∧
      s.gate.isStrict connection.id = true ∧
      Watch.inquiry? b connection.id connection.host.host [] s.watch = some q := by
  cases target with
  | none => cases h
  | some connection =>
    rw [enforceInquiry?] at h
    split at h
    · next hchecked => exact ⟨connection, rfl, hchecked.1, hchecked.2, h⟩
    · cases h

/-- A call that asks is no command, and is a statement that is checked. -/
theorem callInquiry?_eq_some {target : Option Connection} {request : Request} {s : Site W}
    {q : Inquiry} (h : callInquiry? b target request s = some q) :
    request.mode? s.gate.space = none ∧
      enforceInquiry? b target request.method s = some q := by
  rw [callInquiry?] at h
  split at h
  · cases h
  · next hpass =>
    obtain ⟨connection, rfl, -⟩ := enforceInquiry?_eq_some h
    exact ⟨by simpa using hpass, h⟩

section
variable {protocol : String} {host : HostSpec} {props : Properties} {s : Site W}

theorem connectInquiry?_eq_some {q : Inquiry}
    (h : connectInquiry? b protocol host props s = some q) :
    let id : ConnectionId := ⟨s.gate.minted⟩
    let opened := opening b protocol host props s
    let probed := Watch.probeCapabilities b id opened.state
    ∃ capabilities, opened.value = .ok () ∧ probed.value = .ok capabilities ∧
      Watch.inquiry? b id host.host
        (propertyChanges props ++
            Watch.connectChanges b id protocol host props (readied props s).watch ++
          (Watch.capabilityChanges b id opened.state ++
            [.featured capabilities.hasFeatures, .registered host.host host.role]))
        (Watch.tracked host capabilities probed.state) = some q := by
  intro id opened probed
  rw [connectInquiry?] at h
  split at h
  · next capabilities hopen hprobe => exact ⟨capabilities, hopen, hprobe, h⟩
  · cases h

/-- A connect whose version query did not fail succeeds. -/
theorem connect_value_of_probed {capabilities : Capabilities}
    (hopen : (opening b protocol host props s).value = .ok ())
    (hprobe : (Watch.probeCapabilities b ⟨s.gate.minted⟩
      (opening b protocol host props s).state).value = .ok capabilities) :
    (connect b protocol host props s).value = .ok ⟨⟨s.gate.minted⟩, host, capabilities⟩ :=
  (connect_handedOut hopen (Watch.probeConnection_probed host hprobe).1).1

/-- The table against which a connect asks. -/
theorem tracked_tracker {capabilities : Capabilities} :
    let id : ConnectionId := ⟨s.gate.minted⟩
    let opened := opening b protocol host props s
    let probed := Watch.probeCapabilities b id opened.state
    (Watch.tracked host capabilities probed.state).tracker =
      s.gate.tracker.replay
        (propertyChanges props ++
            Watch.connectChanges b id protocol host props (readied props s).watch ++
          (Watch.capabilityChanges b id opened.state ++
            [.featured capabilities.hasFeatures, .registered host.host host.role])) := by
  intro id opened probed
  have hready :
      (readied props s).watch.tracker = s.gate.tracker.replay (propertyChanges props) := by
    rw [readied_eq]
    exact applyProperties_tracker props s
  have hopened : opened.state.tracker = _ :=
    Watch.connect_tracker b id protocol host props (readied props s).watch
  have hprobed := Watch.probeCapabilities_tracker b id opened.state
  simp only [Tracker.replay_append]
  rw [← hready, ← hopened, ← hprobed]
  rfl

end

theorem probes_propertyChanges (props : Properties) :
    Change.probes (propertyChanges props) = [] := by
  rw [propertyChanges]
  cases props.effective? Properties.preferredAz <;>
    cases props.effective? Properties.hostAzMap <;> rfl

/-- The query of an operation, in the terms of the operation: who asks, which changes the operation
had made to the table by then, and what the table said. -/
theorem inquiry?_eq_some {op : Operation W} {s : Site W} {q : Inquiry}
    (h : op.inquiry? b s = some q) :
    op.AsksAbout b s q.asker q.host ∧ q.seen <+: op.changes b s ∧ Change.probes q.seen = [] ∧
      ∃ watch : Watch W, watch.tracker = s.gate.tracker.replay q.seen ∧
        q.time = b.now watch.world ∧ Watch.asksForwarding b q.host watch = true := by
  cases op with
  | connect protocol host props =>
    obtain ⟨capabilities, hopen, hprobe, hrefresh⟩ := connectInquiry?_eq_some h
    obtain ⟨hasker, hhost, hseen, htime, hasks⟩ := Watch.inquiry?_eq_some hrefresh
    rw [hasker, hhost, hseen, htime]
    refine ⟨.connect (connect_value_of_probed hopen hprobe), ?_, ?_, _, tracked_tracker, rfl, hasks⟩
    · rw [Operation.changes, connectChanges, hopen, Watch.probeChanges_probed hprobe]
      simp only [← List.append_assoc]
      exact (List.prefix_append _ _).trans (List.prefix_append _ _)
    · simp only [Change.probes_append, probes_propertyChanges]
      rw [Change.probes_of_topologies (Watch.isTopology_of_mem_connectChanges b _ _ _ _ _),
        Change.probes_of_topologies (Watch.isTopology_of_mem_capabilityChanges b _ _)]
      rfl
  | call target request =>
    obtain ⟨hcommand, hchecked⟩ := callInquiry?_eq_some h
    obtain ⟨connection, hheld, hstatement, hstrict, hrefresh⟩ := enforceInquiry?_eq_some hchecked
    obtain ⟨hasker, hhost, hseen, htime, hasks⟩ := Watch.inquiry?_eq_some hrefresh
    rw [hasker, hhost, hseen, htime]
    exact ⟨.statement hheld hstrict hstatement hcommand, List.nil_prefix, rfl, s.watch, rfl, rfl,
      hasks⟩
  | _ => cases h

/-! ### The query among the events -/

variable (b)

theorem inquirers_enforceOn (target : Option Connection) (method : Method) (sql : Option String)
    (s : Site W) :
    Event.inquirers (enforceOn b target method sql s).events =
      ((enforceInquiry? b target method s).map (·.asker)).toList := by
  cases target with
  | none => rfl
  | some connection =>
    by_cases hchecked : method.runsStatement = true ∧ s.gate.isStrict connection.id = true
    · have hcontacts := (enforceOn_checked (b := b) hchecked.1 hchecked.2 sql).2
      rw [← Event.inquirers_contacts, hcontacts, Event.inquirers_contacts,
        Watch.inquirers_refresh b connection.id connection.host.host [], enforceInquiry?,
        if_pos hchecked]
    · rw [enforceOn_unchecked hchecked, enforceInquiry?, if_neg hchecked]
      rfl

theorem inquirers_callFor (target : Option Connection) (id : ConnectionId) (request : Request)
    (s : Site W) :
    Event.inquirers (callFor b target id request s).events =
      ((callInquiry? b target request s).map (·.asker)).toList := by
  rw [← Event.inquirers_contacts, callInquiry?]
  by_cases hcommand : target.isSome ∧ (request.mode? s.gate.space).isSome
  · obtain ⟨connection, rfl⟩ := Option.isSome_iff_exists.mp hcommand.1
    obtain ⟨enabled, hmode⟩ := Option.isSome_iff_exists.mp hcommand.2
    rw [if_pos hcommand, (callFor_command b connection id request s hmode).2.2]
    rfl
  · have hpass := passes_of_not_command hcommand
    have hchecked := inquirers_enforceOn b target request.method request.sql? s
    rw [if_neg hcommand, ← hchecked, (callFor_pass b target id request s hpass).2.2]
    cases hvalue : (enforceOn b target request.method request.sql? s).value with
    | error violation => rw [proceed_refused id hvalue, Event.inquirers_contacts]
    | ok _ =>
      -- The call that follows is the caller's.
      rw [(proceed_allowed id hvalue).2.2, Event.inquirers_append, Event.inquirers_contacts,
        Watch.contacts_call]
      simp

theorem inquirers_connect (protocol : String) (host : HostSpec) (props : Properties) (s : Site W) :
    Event.inquirers (connect b protocol host props s).events =
      ((connectInquiry? b protocol host props s).map (·.asker)).toList := by
  rw [← Event.inquirers_contacts, contacts_connect, Event.inquirers_opened_cons, connectInquiry?]
  cases hopen : (opening b protocol host props s).value with
  | error source => rfl
  | ok _ =>
    have hcapabilities := Watch.inquirers_probeCapabilities b ⟨s.gate.minted⟩
      (opening b protocol host props s).state
    cases hprobe : (Watch.probeCapabilities b ⟨s.gate.minted⟩
      (opening b protocol host props s).state).value with
    | error source =>
      simp [probing, Watch.probeConnection_failed host hprobe, Event.inquirers_contacts,
        hcapabilities]
    | ok capabilities =>
      -- Neither the version nor the marker is what is looked for, so the refresh decides.
      obtain ⟨hvalue, -, hcontacts⟩ := Watch.probeConnection_probed host hprobe
      rw [probing, hvalue, hcontacts]
      simp only [Event.inquirers_append, Event.inquirers_contacts, hcapabilities,
        List.nil_append, List.append_nil]
      exact Watch.inquirers_refresh b _ _ _ _

/-- Among the events of an operation its query is the only one for write forwarding. -/
theorem inquirers_perform (op : Operation W) (s : Site W) :
    Event.inquirers (perform b op s).events = ((op.inquiry? b s).map (·.asker)).toList := by
  cases op with
  | connect protocol host props =>
    rw [Operation.inquiry?, ← inquirers_connect]
    simp [perform]
  | call target request =>
    rw [Operation.inquiry?, ← inquirers_callFor b _ target.owner]
    by_cases hreached : target.reaches s.gate = true
    · rw [perform_call_reached b hreached]
    · cases target with
      | statement statement => exact absurd rfl hreached
      | connection id =>
        have hgone : s.gate.connection? id = none := by simpa [Target.reaches] using hreached
        rw [perform_call_connection_gone b hgone, inquirers_callFor, Target.owner, hgone]
        rfl
  | _ =>
    rw [← Event.inquirers_contacts, contacts_perform_inside (by simp) (by simp)]
    rfl

/-! ### The query among the changes -/

theorem probes_enforceChanges (target : Option Connection) (method : Method) (s : Site W) :
    Change.probes (enforceChanges b target method s) =
      ((enforceInquiry? b target method s).map Inquiry.outcome).toList := by
  cases target with
  | none => rfl
  | some connection =>
    rw [enforceChanges, enforceInquiry?]
    split
    · exact Watch.probes_refreshChanges b _ _ _ _
    · rfl

theorem probes_callChanges (target : Option Connection) (id : ConnectionId) (request : Request)
    (s : Site W) :
    Change.probes (callChanges b target id request s) =
      ((callInquiry? b target request s).map Inquiry.outcome).toList := by
  rw [callChanges, callInquiry?]
  split
  · rfl
  · rw [Change.probes_append, probes_enforceChanges]
    cases (enforceOn b target request.method request.sql? s).value with
    | error violation => simp
    | ok _ =>
      rw [Change.probes_of_topologies (Watch.isTopology_of_mem_callChanges b id request _)]
      exact List.append_nil _

theorem probes_connectChanges (protocol : String) (host : HostSpec) (props : Properties)
    (s : Site W) :
    Change.probes (connectChanges b protocol host props s) =
      ((connectInquiry? b protocol host props s).map Inquiry.outcome).toList := by
  have hconnect := Change.probes_of_topologies (Watch.isTopology_of_mem_connectChanges b
    ⟨s.gate.minted⟩ protocol host props (readied props s).watch)
  have hcapabilities := Change.probes_of_topologies (Watch.isTopology_of_mem_capabilityChanges b
    ⟨s.gate.minted⟩ (opening b protocol host props s).state)
  rw [connectChanges, connectInquiry?]
  simp only [Change.probes_append, probes_propertyChanges, hconnect, List.nil_append]
  cases hopen : (opening b protocol host props s).value with
  | error source => rfl
  | ok _ =>
    cases hprobe : (Watch.probeCapabilities b ⟨s.gate.minted⟩
      (opening b protocol host props s).state).value with
    | error source =>
      have hclose := Change.probes_of_topologies (Watch.isTopology_of_mem_callChanges b
        ⟨s.gate.minted⟩ .close (probing b protocol host props s).state)
      have hfailed : (probing b protocol host props s).value = .error source := by
        rw [probing, Watch.probeConnection_failed host hprobe]
      simp [Watch.probeChanges_failed hprobe, hcapabilities, hfailed, hclose]
    | ok capabilities =>
      have hprobed : (probing b protocol host props s).value = .ok capabilities :=
        (Watch.probeConnection_probed host hprobe).1
      simp only [Watch.probeChanges_probed hprobe, hprobed, Change.probes_append, hcapabilities]
      exact (List.append_nil _).trans (Watch.probes_refreshChanges b _ _ _ _)

/-- Among the changes that an operation makes to the host table its query is the only probe. -/
theorem probes_changes (op : Operation W) (s : Site W) :
    Change.probes (op.changes b s) = ((op.inquiry? b s).map Inquiry.outcome).toList := by
  cases op with
  | connect protocol host props => exact probes_connectChanges b protocol host props s
  | call target request =>
    rw [Operation.inquiry?]
    cases target with
    | connection id =>
      rw [Operation.changes, Target.owner]
      cases hheld : s.gate.connection? id with
      | none => simp [callInquiry?, enforceInquiry?]
      | some connection => exact probes_callChanges b (some connection) connection.id request s
    | statement statement => exact probes_callChanges b _ statement.owner request s
  | seed source => cases source <;> rfl
  | _ => rfl

end Site

end ClusterGate
