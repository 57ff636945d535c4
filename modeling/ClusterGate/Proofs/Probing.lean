import ClusterGate.Proofs.Frame

/-!
# What probes do

A probe is one query to the server and, for the caller, a fact. Whatever the server answers, the
world and the host table afterwards are those that the query left. Only a refresh goes on to write
the outcome down.
-/

namespace ClusterGate.Watch

variable {W : Type} (b : Backend W)

@[simp] theorem log_apply (entries : List LogEntry) (s : Watch W) :
    log entries s = ⟨(), s, entries.map .logged⟩ := rfl

@[simp] theorem track_apply (f : Tracker → Tracker) (s : Watch W) :
    track f s = ⟨(), { s with tracker := f s.tracker }, []⟩ := rfl

@[simp] theorem now_apply (s : Watch W) : now b s = ⟨b.now s.world, s, []⟩ := rfl

@[simp] theorem url_apply (id : ConnectionId) (s : Watch W) :
    url b id s = ⟨b.url s.world id, s, []⟩ := rfl

/-! ## Driver calls -/

/-- A driver call takes in the topology changes that arrive with its answer. -/
theorem call_state (origin : Origin) (id : ConnectionId) (request : Request) (s : Watch W) :
    (call b origin id request s).state =
      ⟨s.tracker.receiveAll (b.call s.world id request).2.pushes,
        (b.call s.world id request).1⟩ := rfl

@[simp] theorem contacts_call (origin : Origin) (id : ConnectionId) (request : Request)
    (s : Watch W) :
    Event.contacts (call b origin id request s).events = [.called id origin request] := by
  simp [call, takeIn]

/-! ## Queries of the library -/

theorem probeMarker_state (id : ConnectionId) (s : Watch W) :
    (probeMarker b id s).state = (query b id markerQuery s).state := by
  cases hq : (query b id markerQuery s).value <;> simp [probeMarker, hq]

theorem probeForwarding_state (id : ConnectionId) (s : Watch W) :
    (probeForwarding b id s).state = (query b id forwardingQuery s).state := by
  cases hq : (query b id forwardingQuery s).value <;> simp [probeForwarding, hq]

theorem contacts_probeForwarding (id : ConnectionId) (s : Watch W) :
    Event.contacts (probeForwarding b id s).events =
      [.called id .probe (.executeQuery forwardingQuery)] := by
  have hquery : Event.contacts (query b id forwardingQuery s).events =
      [.called id .probe (.executeQuery forwardingQuery)] :=
    contacts_call b .probe id (.executeQuery forwardingQuery) s
  cases hq : (query b id forwardingQuery s).value <;> simp [probeForwarding, hq, hquery]

/-- A setting means yes if it is `on` or `true`, with small or capital letters, or the digit one. -/
theorem isEnabledSetting_iff {setting : String} :
    isEnabledSetting setting = true ↔
      setting.toList.map Char.toLower ∈ ["on".toList, "true".toList] ∨ setting = "1" := by
  have hon : "on".toList.map Char.toLower = "on".toList := by decide
  have htrue : "true".toList.map Char.toLower = "true".toList := by decide
  simp only [isEnabledSetting, Bool.or_eq_true, Text.sameIgnoringCase_iff, hon, htrue, beq_iff_eq,
    List.mem_cons, List.not_mem_nil, or_false]

/-- The first value of an answer is the first cell of its first row. Other rows and cells do not
count. -/
theorem firstValue?_eq_some_iff {result : QueryResult} {value : String} :
    result.firstValue? = some value ↔
      ∃ cells rows, result.rows = (some value :: cells) :: rows := by
  rcases result with ⟨columns, _ | ⟨_ | ⟨cell, cells⟩, rows⟩⟩
  · simp [QueryResult.firstValue?]
  · simp [QueryResult.firstValue?]
  · simp [QueryResult.firstValue?]

/-- The server is taken to forward writes if it answers a row that begins with such a setting. An
error counts as no, and so do an answer without a row or a cell, NULL and any other setting. -/
theorem probeForwarding_iff (id : ConnectionId) (s : Watch W) :
    (probeForwarding b id s).value = true ↔
      ∃ columns setting cells rows,
        (b.call s.world id (.executeQuery forwardingQuery)).2.result =
            .ok (⟨columns, (some setting :: cells) :: rows⟩ : QueryResult) ∧
          (setting.toList.map Char.toLower ∈ ["on".toList, "true".toList] ∨ setting = "1") := by
  have hanswer : (query b id forwardingQuery s).value =
      (b.call s.world id (.executeQuery forwardingQuery)).2.result := rfl
  rw [← hanswer]
  cases hq : (query b id forwardingQuery s).value with
  | error e => simp [probeForwarding, hq]
  | ok result =>
    have hread : (probeForwarding b id s).value = result.firstValue?.any isEnabledSetting := by
      simp [probeForwarding, hq]
    rw [hread, Option.any_eq_true]
    simp only [firstValue?_eq_some_iff, isEnabledSetting_iff]
    constructor
    · rintro ⟨setting, ⟨cells, rows, hrows⟩, henabled⟩
      exact ⟨result.columns, setting, cells, rows, by rw [← hrows], henabled⟩
    · rintro ⟨columns, setting, cells, rows, heq, henabled⟩
      cases heq
      exact ⟨setting, ⟨cells, rows, rfl⟩, henabled⟩

/-! ## Bringing a record up to date -/

section
variable {b} {id : ConnectionId} {host : String} {s : Watch W}

/-- Nobody is asked about a host that is not tracked. -/
theorem refresh_untracked (h : s.tracker.record? host = none) :
    refresh b id host s = ⟨none, s, []⟩ := by
  simp [refresh, bind, h]

/-- A record whose last probe is still believed, or a writer's, stays as it is. -/
theorem refresh_current {r : HostRecord} (h : s.tracker.record? host = some r)
    (hcurrent : s.tracker.needsProbe r (b.now s.world) = false) :
    refresh b id host s = ⟨some r, s, []⟩ := by
  simp [refresh, bind, h, hcurrent]

/-- Any other record is probed, and the outcome is written down in the table as it stands then. -/
theorem refresh_probe {r : HostRecord} (h : s.tracker.record? host = some r)
    (hneeds : s.tracker.needsProbe r (b.now s.world) = true) :
    let asked := probeForwarding b id s
    let time := b.now asked.state.world
    let refreshed := refresh b id host s
    refreshed.state = ⟨asked.state.tracker.settle host asked.value time, asked.state.world⟩ ∧
      refreshed.value = refreshed.state.tracker.record? host ∧
      Event.contacts refreshed.events = [.called id .probe (.executeQuery forwardingQuery)] := by
  simp [refresh, settle, h, hneeds, contacts_probeForwarding]

/-- What a refresh returns is what the table says when it is over. -/
theorem refresh_value : (refresh b id host s).value =
    (refresh b id host s).state.tracker.record? host := by
  cases hr : s.tracker.record? host with
  | none =>
    rw [refresh_untracked hr]
    exact hr.symm
  | some r =>
    cases hneeds : s.tracker.needsProbe r (b.now s.world) with
    | true => exact (refresh_probe hr hneeds).2.1
    | false =>
      rw [refresh_current hr hneeds]
      exact hr.symm

/-- A refresh makes no call on behalf of a caller. -/
theorem caller_not_mem_refresh {id' : ConnectionId} {request : Request} :
    .called id' .caller request ∉ (refresh b id host s).events := by
  cases hr : s.tracker.record? host with
  | none => simp [refresh_untracked hr]
  | some r =>
    cases hneeds : s.tracker.needsProbe r (b.now s.world) with
    | true =>
      rw [← Event.called_mem_contacts, (refresh_probe hr hneeds).2.2]
      simp
    | false => simp [refresh_current hr hneeds]

end

end ClusterGate.Watch
