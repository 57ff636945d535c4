import ClusterGate.Proofs.Contacts
import ClusterGate.Proofs.FailedConnect

/-!
# The flag of the cluster engine

A gate tells whether the server probed last has the features of the cluster engine. The flag is one
for the whole gate, and a connect that gets an answer to its version query sets it, whatever the
answer is. Nothing else touches it, so after any run it says what the last connect of this kind
found out, which is also what the connection of that connect says of itself
(`Site.features_of_last_probed`).

What a connect finds out is told by the answers of the world alone (`Site.interview`).
-/

namespace ClusterGate

/-! ## What is asked of a server that is opened -/

/-- What the world answers to a connect: whether the driver opens the connection, the version, and
the marker of the cluster engine. Each of them is what is answered after the one before, also where
it is not asked for. -/
structure Interview where
  opened : Except DriverError Unit
  version : Except DriverError QueryResult
  marker : Except DriverError QueryResult

namespace Interview

/-- The connection is opened and answers the version query. -/
def passed (i : Interview) : Bool := i.opened.isOk && i.version.isOk

theorem passed_iff {i : Interview} :
    i.passed = true ↔ i.opened = .ok () ∧ ∃ result, i.version = .ok result := by
  obtain ⟨opened, version, marker⟩ := i
  cases opened <;> cases version <;> simp [passed, Except.isOk, Except.toBool]

/-- The version line. A version query that is answered may return none. -/
def line? (i : Interview) : Option String := i.version.toOption.bind QueryResult.firstValue?

/-- There is a version line, and it names the engine. -/
def namesEngine (i : Interview) : Bool := i.line?.any ServerVersion.namesEngine

/-- The server has the features of the cluster engine: its version line names the engine and has a
major version that is high enough, and its marker is not empty. -/
def Featured (i : Interview) : Prop :=
  ∃ line major answer value, i.line? = some line ∧ ServerVersion.namesEngine line = true ∧
    ServerVersion.major? line = .ok major ∧ featureVersion ≤ major ∧
    i.marker = .ok answer ∧ answer.firstValue? = some value ∧ value ≠ ""

end Interview

/-- The interview that a connect would hold. -/
def Site.interview {W : Type} (b : Backend W) (protocol : String) (host : HostSpec)
    (props : Properties) (s : Site W) : Interview :=
  let id : ConnectionId := ⟨s.gate.minted⟩
  let opened := b.connect s.world id protocol host props
  let version := b.call opened.1 id (.executeQuery versionQuery)
  let marker := b.call version.1 id (.executeQuery markerQuery)
  ⟨opened.2.result, version.2.result, marker.2.result⟩

namespace Moment

variable {W : Type} (b : Backend W)

/-- The interview of a connect. No other operation holds one. -/
def interview? (m : Moment W) : Option Interview :=
  match m.operation with
  | .connect protocol host props => some (Site.interview b protocol host props m.site)
  | _ => none

/-- The operation is a connect that passes its version query. -/
def passes (m : Moment W) : Bool := (m.interview? b).any Interview.passed

end Moment

/-! ## Version lines and markers -/

namespace ServerVersion

theorem isTarget_ofLine (line : String) : (ofLine line).isTarget = namesEngine line := by
  cases hnamed : namesEngine line <;> simp [ofLine, isTarget, hnamed, targetEngine, unknownEngine]

theorem major_ofLine {line : String} (hnamed : namesEngine line = true) :
    (ofLine line).major = (major? line).toOption.getD 0 := by
  rw [ofLine, if_pos hnamed]

end ServerVersion

/-- A server with a version line has the features if the line and the marker say so. A version that
cannot be read is not recent. -/
theorem Capabilities.hasFeatures_ofLine_iff (line : String) (cluster : Bool) :
    (ofVersion (.ofLine line) cluster).hasFeatures = true ↔
      ServerVersion.namesEngine line = true ∧
        (∃ major, ServerVersion.major? line = .ok major ∧ featureVersion ≤ major) ∧
        cluster = true := by
  have htarget : (ofVersion (.ofLine line) cluster).isTarget = ServerVersion.namesEngine line :=
    ServerVersion.isTarget_ofLine line
  rw [hasFeatures, htarget, Bool.and_eq_true, Bool.and_eq_true, and_assoc]
  refine and_congr_right fun hnamed => and_congr_left' ?_
  rw [isRecent, decide_eq_true_iff, ofVersion, ServerVersion.major_ofLine hnamed]
  cases hmajor : ServerVersion.major? line with
  | error fault => simp [Except.toOption, featureVersion]
  | ok major => simp [Except.toOption]

namespace Watch

variable {W : Type} {b : Backend W} {id : ConnectionId} {s : Watch W}

/-- The marker is there if the answer has a first value and this is not empty. An error counts as no
marker. -/
theorem probeMarker_iff :
    (probeMarker b id s).value = true ↔
      ∃ answer value, (query b id markerQuery s).value = .ok answer ∧
        answer.firstValue? = some value ∧ value ≠ "" := by
  cases hmarker : (query b id markerQuery s).value with
  | error e => simp [probeMarker, hmarker]
  | ok answer => cases hvalue : answer.firstValue? <;> simp [probeMarker, hmarker, hvalue]

/-- With a version line, what a server turns out to be is told by the line and the marker. -/
theorem capabilitiesOf_value (b : Backend W) (id : ConnectionId) (line : String) (s : Watch W) :
    ∃ cluster, (capabilitiesOf b id line s).value = .ofVersion (.ofLine line) cluster ∧
      (ServerVersion.namesEngine line = true → cluster = (probeMarker b id s).value) := by
  have htarget := ServerVersion.isTarget_ofLine line
  cases hnamed : ServerVersion.namesEngine line with
  | true => exact ⟨_, by simp [capabilitiesOf, htarget, hnamed], fun _ => rfl⟩
  | false => exact ⟨false, by simp [capabilitiesOf, htarget, hnamed], fun h => by cases h⟩

/-- What a server turns out to be, from its answers. -/
theorem hasFeatures_iff {capabilities : Capabilities}
    (hprobed : (probeCapabilities b id s).value = .ok capabilities)
    (opened : Except DriverError Unit) :
    let version := query b id versionQuery s
    let marker := query b id markerQuery version.state
    capabilities.hasFeatures = true ↔ Interview.Featured ⟨opened, version.value, marker.value⟩ := by
  intro version marker
  cases hversion : version.value with
  | error e => simp [probeCapabilities, version, hversion] at hprobed
  | ok result =>
    cases hline : result.firstValue? with
    | none =>
      have hunknown : capabilities = .unknown := by
        simpa [probeCapabilities, version, hversion, hline, eq_comm] using hprobed
      -- A server without a version line has no features, whatever its marker is.
      rw [hunknown]
      refine iff_of_false (by decide) ?_
      rintro ⟨line, -, -, -, hfound, -⟩
      cases hline.symm.trans hfound
    | some line =>
      obtain ⟨cluster, hvalue, hcluster⟩ := capabilitiesOf_value b id line version.state
      have hfound : capabilities = .ofVersion (.ofLine line) cluster := by
        rw [← hvalue]
        simpa [probeCapabilities, version, hversion, hline, eq_comm] using hprobed
      rw [hfound, Capabilities.hasFeatures_ofLine_iff]
      constructor
      · rintro ⟨hnamed, ⟨major, hmajor, hrecent⟩, htrue⟩
        obtain ⟨answer, value, hmarker⟩ := probeMarker_iff.mp ((hcluster hnamed).symm.trans htrue)
        exact ⟨line, major, answer, value, hline, hnamed, hmajor, hrecent, hmarker⟩
      · rintro ⟨line', major, answer, value, hline', hnamed, hmajor, hrecent, hmarker⟩
        obtain rfl : line = line' := Option.some.inj (hline.symm.trans hline')
        exact ⟨hnamed, ⟨major, hmajor, hrecent⟩,
          (hcluster hnamed).trans (probeMarker_iff.mpr ⟨answer, value, hmarker⟩)⟩

end Watch

/-! ## The flag in the host table -/

namespace Tracker

/-- Changes of one kind only set the flag. -/
theorem featureEngine_replay {past : List Change} (hpast : ∀ has, .featured has ∉ past)
    (t : Tracker) : (t.replay past).featureEngine = t.featureEngine := by
  induction past generalizing t with
  | nil => rfl
  | cons change rest ih =>
    rw [replay_cons, ih fun has hmem => hpast has (List.mem_cons_of_mem _ hmem)]
    cases change with
    | featured has => exact absurd List.mem_cons_self (hpast has)
    | registered host role => rw [apply, ensure_eq]
    | probed host enabled time => rw [apply, settle_eq]
    | topology | preferred | mapped | reresolved => rfl

/-- What the driver tells does not set the flag. -/
theorem featureEngine_replay_of_reports {past : List Change}
    (hreports : ∀ c ∈ past, c.isReport = true) (t : Tracker) :
    (t.replay past).featureEngine = t.featureEngine := by
  refine featureEngine_replay (fun has hmem => ?_) t
  cases hreports _ hmem

end Tracker

/-- A connection that was probed has set the flag to what it is itself, and the probe of write
forwarding that may follow leaves it so. -/
theorem Watch.featureEngine_probeConnection {W : Type} {b : Backend W} {id : ConnectionId}
    {s : Watch W} (host : HostSpec) {capabilities : Capabilities}
    (hprobed : (probeCapabilities b id s).value = .ok capabilities) :
    (probeConnection b id host s).state.tracker.featureEngine = capabilities.hasFeatures := by
  rw [(probeConnection_probed host hprobed).2.1, refresh_tracker,
    Tracker.featureEngine_replay_of_reports (isReport_of_mem_refreshChanges b id host.host _),
    tracked, Tracker.ensure_eq]

namespace Site

variable {W : Type} {b : Backend W}

/-! ## What a connect does to the flag -/

section
variable {protocol : String} {host : HostSpec} {props : Properties} {s : Site W}

/-- A connect that passes its version query hands the connection out and sets the flag, both to what
the interview says. -/
theorem connect_passed (hpassed : (interview b protocol host props s).passed = true) :
    let ended := connect b protocol host props s
    ∃ connection, ended.value = .ok connection ∧
      (connection.capabilities.hasFeatures = true ↔ (interview b protocol host props s).Featured) ∧
      ended.state.gate.hasFeatures = connection.capabilities.hasFeatures := by
  intro ended
  obtain ⟨hopened, result, hversion⟩ := Interview.passed_iff.mp hpassed
  obtain ⟨hopen, capabilities, hanswered⟩ := probed_of_answered hopened hversion
  have hprobe : (probing b protocol host props s).value = .ok capabilities :=
    (Watch.probeConnection_probed host hanswered).1
  obtain ⟨hhanded, hended⟩ := connect_handedOut hopen hprobe
  have hfeatured := Watch.hasFeatures_iff hanswered (interview b protocol host props s).opened
  refine ⟨_, hhanded, ?_, ?_⟩
  · rw [(opening_eq b protocol host props s).2] at hfeatured
    exact hfeatured
  · rw [Gate.hasFeatures, hended]
    exact Watch.featureEngine_probeConnection host hanswered

/-- A connect that does not pass its version query hands nothing out and leaves the flag. -/
theorem connect_notPassed {mode : ConnectionId → Option Bool} (hrecorded : s.gate.Recorded mode)
    (hpassed : (interview b protocol host props s).passed = false) :
    let ended := connect b protocol host props s
    (∃ e, ended.value = .error e) ∧ ended.state.gate.hasFeatures = s.gate.hasFeatures := by
  intro ended
  cases hopened : (interview b protocol host props s).opened with
  | error e =>
    have hfailed := connectFailed_of_unopened hrecorded hopened
    refine ⟨⟨_, hfailed.value⟩, ?_⟩
    exact hfailed.gate.table.featureEngine.trans (Tracker.featureEngine_receiveAll _ _)
  | ok _ =>
    cases hversion : (interview b protocol host props s).version with
    | error e =>
      have hfailed := connectFailed_of_unprobed hrecorded hopened hversion
      refine ⟨⟨_, hfailed.value⟩, ?_⟩
      exact hfailed.gate.table.featureEngine.trans (Tracker.featureEngine_receiveAll _ _)
    | ok result =>
      rw [Interview.passed, hopened, hversion] at hpassed
      cases hpassed

end

end Site

/-! ## How often the queries are made -/

namespace Event

/-- The event is a query with this text. -/
def asks (sql : String) : Event → Bool
  | called _ _ (.executeQuery text) => text = sql
  | _ => false

/-- How often a query is made, on whatever connection. -/
def asked (sql : String) (events : List Event) : Nat := events.countP (asks sql)

@[simp] theorem asked_nil (sql : String) : asked sql [] = 0 := rfl

@[simp] theorem asked_cons (sql : String) (event : Event) (rest : List Event) :
    asked sql (event :: rest) = asked sql rest + if asks sql event then 1 else 0 :=
  List.countP_cons

@[simp] theorem asked_append (sql : String) (l r : List Event) :
    asked sql (l ++ r) = asked sql l + asked sql r :=
  List.countP_append

/-- Log entries are no queries. -/
@[simp] theorem asked_contacts (sql : String) (events : List Event) :
    asked sql (contacts events) = asked sql events := by
  rw [asked, contacts, List.countP_filter]
  refine List.countP_congr fun event _ => ?_
  cases event <;> simp [asks, isContact]

end Event

namespace Watch

variable {W : Type} (b : Backend W) (id : ConnectionId) (s : Watch W)

theorem asksMarker_eq (opened : Except DriverError Unit) (marker : Except DriverError QueryResult) :
    asksMarker b id s =
      Interview.namesEngine ⟨opened, (query b id versionQuery s).value, marker⟩ := by
  simp only [asksMarker, Interview.namesEngine, Interview.line?, ServerVersion.isTarget_ofLine]
  cases (query b id versionQuery s).value <;> rfl

/-- Each connection is asked for its version once, and for the marker once or not at all. -/
theorem asked_probeCapabilities :
    let events := (probeCapabilities b id s).events
    Event.asked versionQuery events = 1 ∧
      Event.asked markerQuery events = if asksMarker b id s then 1 else 0 := by
  intro events
  have hne : versionQuery ≠ markerQuery := by decide
  have hasked (sql : String) : Event.asked sql events = _ :=
    (Event.asked_contacts sql _).symm.trans
      (congrArg (Event.asked sql) (probeCapabilities_asks b id s).2)
  rw [hasked, hasked]
  cases asksMarker b id s <;> simp [Event.asks, hne, hne.symm]

/-- The probe of write forwarding makes no other query. -/
theorem asked_probeConnection (host : HostSpec) {sql : String} (hsql : sql ≠ forwardingQuery) :
    Event.asked sql (probeConnection b id host s).events =
      Event.asked sql (probeCapabilities b id s).events := by
  cases hprobed : (probeCapabilities b id s).value with
  | error e => rw [probeConnection_failed host hprobed]
  | ok capabilities =>
    have hrefresh (t : Watch W) : Event.asked sql (refresh b id host.host t).events = 0 := by
      rw [← Event.asked_contacts, contacts_refresh]
      split <;> simp [Event.asks, hsql.symm]
    rw [← Event.asked_contacts, (probeConnection_probed host hprobed).2.2, Event.asked_append,
      Event.asked_contacts, Event.asked_contacts, hrefresh, Nat.add_zero]

end Watch

namespace Site

variable {W : Type} (b : Backend W)

/-- What a connect asks before it ends is asked when the connection is probed. -/
theorem asked_connect (protocol : String) (host : HostSpec) (props : Properties) (s : Site W)
    (sql : String) :
    Event.asked sql (connect b protocol host props s).events =
      if (opening b protocol host props s).value.isOk then
        Event.asked sql (probing b protocol host props s).events
      else 0 := by
  rw [← Event.asked_contacts, contacts_connect]
  cases (opening b protocol host props s).value with
  | error e => rfl
  | ok _ =>
    -- Neither opening a connection nor closing it again is a query.
    cases (probing b protocol host props s).value <;>
      simp [Event.asks, Except.isOk, Except.toBool]

/-- The version query is made once on every connection that the driver opens, and the marker query
once more where the version line names the engine. -/
theorem queries_of_connect (protocol : String) (host : HostSpec) (props : Properties)
    (s : Site W) :
    let i := interview b protocol host props s
    let events := (connect b protocol host props s).events
    Event.asked versionQuery events = (if i.opened.isOk then 1 else 0) ∧
      Event.asked markerQuery events = if i.opened.isOk && i.namesEngine then 1 else 0 := by
  intro i events
  obtain ⟨hvalue, hstate⟩ := opening_eq b protocol host props s
  have hopened : (opening b protocol host props s).value = i.opened := hvalue
  have hnamed : Watch.asksMarker b ⟨s.gate.minted⟩ (opening b protocol host props s).state =
      i.namesEngine := by
    rw [Watch.asksMarker_eq b _ _ i.opened i.marker, hstate]
    rfl
  obtain ⟨hversion, hmarker⟩ := Watch.asked_probeCapabilities b ⟨s.gate.minted⟩
    (opening b protocol host props s).state
  rw [asked_connect, asked_connect, probing, Watch.asked_probeConnection _ _ _ _ (by decide),
    Watch.asked_probeConnection _ _ _ _ (by decide), hversion, hmarker, hnamed, hopened]
  cases i.opened.isOk <;> simp

/-! ## The flag in a run -/

/-- The last connect of a run that passed its version query. -/
def lastProbed? (s : Site W) (ops : List (Operation W)) : Option (Moment W) :=
  ((trail b s ops).filter (Moment.passes b)).getLast?

theorem lastProbed?_concat (s : Site W) (ops : List (Operation W)) (op : Operation W) :
    lastProbed? b s (ops ++ [op]) =
      if Moment.passes b ⟨after b s ops, op⟩ then some ⟨after b s ops, op⟩
      else lastProbed? b s ops := by
  rw [lastProbed?, trail_concat, List.filter_append, List.getLast?_append, List.filter_singleton]
  cases Moment.passes b ⟨after b s ops, op⟩ <;> rfl

end Site

/-- Only a connect can hand a connection out. -/
theorem Site.connect_of_opened {W : Type} {b : Backend W} {op : Operation W} {s : Site W}
    {result : Except CallError Connection} (h : (perform b op s).value = .opened result) :
    ∃ protocol host props, op = .connect protocol host props := by
  cases op with
  | connect protocol host props => exact ⟨protocol, host, props, rfl⟩
  | call target request =>
    cases target with
    | connection id => cases hheld : s.gate.connection? id <;> simp [perform, hheld] at h
    | statement statement => cases h
  | release id => cases hheld : s.gate.connection? id <;> simp [perform, hheld] at h
  | _ => cases h

/-- The flag of a gate is what the interview of this connect says, and what its connection says of
itself. Without a connect the flag is not set. -/
structure Gate.ToldBy {W : Type} (b : Backend W) (g : Gate) (last : Option (Moment W)) :
    Prop where
  features : g.hasFeatures = true ↔
    ∃ m i, last = some m ∧ m.interview? b = some i ∧ i.Featured
  capabilities : ∀ m, last = some m → ∃ connection,
    (Site.perform b m.operation m.site).value = .opened (.ok connection) ∧
      connection.capabilities.hasFeatures = g.hasFeatures

namespace Moment

variable {W : Type} {b : Backend W} {m : Moment W}

/-- A connect that passes its version query tells what the flag is afterwards. -/
theorem toldBy_of_passes (hpasses : m.passes b = true) :
    (Site.perform b m.operation m.site).state.gate.ToldBy b (some m) := by
  obtain ⟨s, op⟩ := m
  cases op with
  | connect protocol host props =>
    obtain ⟨connection, hvalue, hfeatured, hflag⟩ := Site.connect_passed hpasses
    have hopened : (Site.perform b (.connect protocol host props) s).value =
        .opened (.ok connection) := congrArg Outcome.opened hvalue
    constructor
    · refine (Bool.eq_iff_iff.mp hflag).trans (hfeatured.trans ⟨fun h => ?_, ?_⟩)
      · exact ⟨_, _, rfl, rfl, h⟩
      · rintro ⟨m, i, ⟨⟩, ⟨⟩, h⟩
        exact h
    · rintro m ⟨⟩
      exact ⟨connection, hopened, hflag.symm⟩
  | _ => cases hpasses

/-- No other operation sets the flag, or hands a connection out. -/
theorem unchanged_of_not_passes {mode : ConnectionId → Option Bool}
    (hrecorded : m.site.gate.Recorded mode) (hpasses : m.passes b = false) :
    (Site.perform b m.operation m.site).state.gate.hasFeatures = m.site.gate.hasFeatures ∧
      ∀ connection, (Site.perform b m.operation m.site).value ≠ .opened (.ok connection) := by
  obtain ⟨s, op⟩ := m
  by_cases hconnect : ∃ protocol host props, op = .connect protocol host props
  · obtain ⟨protocol, host, props, rfl⟩ := hconnect
    obtain ⟨⟨e, hvalue⟩, hflag⟩ := Site.connect_notPassed hrecorded hpasses
    refine ⟨hflag, fun connection hopened => ?_⟩
    have hok : (Site.connect b protocol host props s).value = .ok connection :=
      Outcome.opened.inj hopened
    cases hvalue.symm.trans hok
  · refine ⟨?_, fun connection hopened => hconnect (Site.connect_of_opened hopened)⟩
    rw [Gate.hasFeatures, Site.perform_tracker]
    exact Tracker.featureEngine_replay_of_reports (Operation.isReport_of_mem_changes
      (fun protocol host props hop => hconnect ⟨protocol, host, props, hop⟩) s) _

end Moment

namespace Site

variable {W : Type}

/-- At every point of a run the flag is what the last connect that passed made it. -/
theorem told_after (b : Backend W) {config : Config} {gate : Gate}
    (hnew : Gate.ofConfig config = .ok gate) (world : W) (ops : List (Operation W)) :
    (after b ⟨gate, world⟩ ops).gate.ToldBy b (lastProbed? b ⟨gate, world⟩ ops) := by
  induction ops using List.reverseRecOn with
  | nil =>
    obtain ⟨space, rfl⟩ := Gate.ofConfig_eq hnew
    exact ⟨iff_of_false Bool.false_ne_true (by simp [lastProbed?, trail]),
      by simp [lastProbed?, trail]⟩
  | append_singleton ops op ih =>
    rw [after_concat, lastProbed?_concat]
    -- A connect that passes settles the flag whatever it was; anything else leaves it as it was.
    cases hpasses : Moment.passes b ⟨after b ⟨gate, world⟩ ops, op⟩ with
    | true => exact Moment.toldBy_of_passes hpasses
    | false =>
      have hkept := (Moment.unchanged_of_not_passes (recorded_after b hnew world ops) hpasses).1
      exact ⟨by rw [hkept]; exact ih.features, by rw [hkept]; exact ih.capabilities⟩

/-- The flag of a gate is that of the connection probed last. After any run it is set exactly if
some connect has passed its version query and the last one that did reached a server with the
features of the cluster engine, by its version line and its marker; that connect has handed out a
connection whose capabilities say the same. A connect that does not pass fails, and neither it nor
any other operation changes the flag. A connect makes the version query once, unless the driver does
not open the connection, and the marker query once if the version line names the engine. -/
theorem features_of_last_probed (b : Backend W) {config : Config} {gate : Gate}
    (hnew : Gate.ofConfig config = .ok gate) (world : W) (ops : List (Operation W)) :
    let s := after b ⟨gate, world⟩ ops
    let last := lastProbed? b ⟨gate, world⟩ ops
    (s.gate.hasFeatures = true ↔
      ∃ m i, last = some m ∧ m.interview? b = some i ∧ i.Featured) ∧
    (∀ m, last = some m → ∃ connection,
      (perform b m.operation m.site).value = .opened (.ok connection) ∧
        connection.capabilities.hasFeatures = s.gate.hasFeatures) ∧
    (∀ op, (Moment.passes b ⟨s, op⟩ = true ↔
        ∃ connection, (perform b op s).value = .opened (.ok connection)) ∧
      (Moment.passes b ⟨s, op⟩ = false →
        (perform b op s).state.gate.hasFeatures = s.gate.hasFeatures)) ∧
    (∀ protocol host props,
      let i := interview b protocol host props s
      let events := (connect b protocol host props s).events
      Event.asked versionQuery events = (if i.opened.isOk then 1 else 0) ∧
        Event.asked markerQuery events = if i.opened.isOk && i.namesEngine then 1 else 0) := by
  intro s last
  have htold : s.gate.ToldBy b last := told_after b hnew world ops
  have hrecorded : s.gate.Recorded (modeOf b ⟨gate, world⟩ ops) := recorded_after b hnew world ops
  refine ⟨htold.features, htold.capabilities, fun op => ⟨?_, fun hpasses => ?_⟩,
    fun protocol host props => queries_of_connect b protocol host props s⟩
  · cases hpasses : Moment.passes b ⟨s, op⟩ with
    | true =>
      obtain ⟨connection, hopened, -⟩ :=
        (Moment.toldBy_of_passes hpasses).capabilities _ rfl
      exact iff_of_true rfl ⟨connection, hopened⟩
    | false =>
      have hnone := (Moment.unchanged_of_not_passes (m := ⟨s, op⟩) hrecorded hpasses).2
      exact iff_of_false Bool.false_ne_true fun ⟨connection, hopened⟩ => hnone connection hopened
  · exact (Moment.unchanged_of_not_passes (m := ⟨s, op⟩) hrecorded hpasses).1

open ScriptedCluster (backend)

/-- A server of the cluster engine, one of the same version without a marker, one that fails the
version query and one that cannot be reached. -/
def mixedCluster : ScriptedCluster :=
  let replies (sql : String) (reply : Reply) : Behaviour :=
    { Behaviour.healthy with replies := (∅ : Dict String Reply).insert sql reply }
  (((ScriptedCluster.mk ∅ ∅ true 0).layDown "plain" (replies markerQuery (.rows .empty))).layDown
    "mute" (replies versionQuery (.fails (.queryFailed "version() unavailable")))).layDown
    "shut" { Behaviour.healthy with connectFault := some (.connectFailed "shut" "refused") }

/-- Connects to these servers. The last one that passes its version query is that to the server of
the cluster engine. -/
def mixedConnects : List (Operation ScriptedCluster) :=
  ["plain", "db", "mute", "shut"].map fun host => .connect "jdbc" ⟨host, 5432, .writer⟩ ∅

/-- The flag is set, although two connects have failed since. -/
theorem features_of_last_probed_mixed :
    let s := after backend ⟨.plain, mixedCluster⟩ mixedConnects
    s.gate.hasFeatures = true ∧
      ∃ m i, lastProbed? backend ⟨.plain, mixedCluster⟩ mixedConnects = some m ∧
        m.interview? backend = some i ∧ i.Featured := by
  intro s
  have hflag : s.gate.hasFeatures = true := by decide +kernel
  exact ⟨hflag,
    (features_of_last_probed backend Gate.ofConfig_plain mixedCluster mixedConnects).1.mp hflag⟩

/-- Where the driver does not open the connection no version query is made. -/
theorem version_query_unasked :
    Event.asked versionQuery
      (connect backend "jdbc" ⟨"shut", 5432, .writer⟩ ∅ ⟨.plain, mixedCluster⟩).events = 0 := by
  decide +kernel

end Site

end ClusterGate
