import ClusterGate.Proofs.Probing
import ClusterGate.Proofs.Run

/-!
# The decision about a statement in strict-writer mode

The check of a statement looks at the host table, may ask the server whether it forwards writes
while the cluster goes on changing, and looks at the table again. Its verdict is the one that the
table itself gives when the check is over: the host accepts writes, or it is not tracked and the
connection was opened to a writer (`Tracker.permits`). A statement that is let through reaches the
driver as it is; one that is refused does not, and the refusal tells whether the host was tracked.
-/

namespace ClusterGate

/-! ## What a table says about a host -/

namespace Tracker

/-- The table lets a connection in strict-writer mode, opened to `spec`, run statements. -/
def permits (t : Tracker) (spec : HostSpec) : Bool :=
  match t.record? spec.host with
  | some r => r.acceptsWrites
  | none => spec.role = .writer

/-- Why a host that is not permitted is refused. -/
def refusal (t : Tracker) (spec : HostSpec) : Refusal :=
  if (t.record? spec.host).isSome then .readerWithoutForwarding else .untrackedHost

/-- What a table says about a host, for a connection opened to `spec`. -/
def facts (t : Tracker) (spec : HostSpec) : HostFacts :=
  match t.record? spec.host with
  | none => .untracked spec.role
  | some r => if r.isWriter then .writer else .reader r.forwarding

theorem refusal_eq_untrackedHost_iff (t : Tracker) (spec : HostSpec) :
    t.refusal spec = .untrackedHost ↔ t.record? spec.host = none := by
  cases h : t.record? spec.host <;> simp [refusal, h]

/-- What the table permits is what the rule permits. -/
theorem judge_of_permits {t : Tracker} {spec : HostSpec} (h : t.permits spec = true) :
    ∃ permission, Policy.judge (t.facts spec) = .ok permission := by
  cases hr : t.record? spec.host with
  | none =>
    simp only [permits, hr, decide_eq_true_eq] at h
    exact ⟨.writer, by simp [facts, hr, Policy.judge, HostFacts.untracked, h]⟩
  | some r =>
    simp only [permits, hr, HostRecord.acceptsWrites, Bool.or_eq_true] at h
    by_cases hw : r.isWriter = true
    · exact ⟨.writer, by simp [facts, hr, hw, Policy.judge, HostFacts.writer]⟩
    · have hf : r.forwarding = true := h.resolve_left hw
      exact ⟨.forwardingReader, by simp [facts, hr, hw, hf, Policy.judge, HostFacts.reader]⟩

/-- Where the table does not permit, the rule refuses, and for the reason that the table gives. -/
theorem judge_of_not_permits {t : Tracker} {spec : HostSpec} (h : t.permits spec = false) :
    Policy.judge (t.facts spec) = .error (t.refusal spec) := by
  cases hr : t.record? spec.host with
  | none =>
    simp only [permits, hr, decide_eq_false_iff_not] at h
    simp [facts, refusal, hr, Policy.judge, HostFacts.untracked, h]
  | some r =>
    simp only [permits, hr, HostRecord.acceptsWrites, Bool.or_eq_false_iff] at h
    simp [facts, refusal, hr, h.1, h.2, Policy.judge, HostFacts.reader]

end Tracker

/-! ## The check -/

namespace Site

variable {W : Type} {b : Backend W}

/-- The facts that the check judges are those of the table when it is over. -/
theorem hostFacts_value (connection : Connection) (s : Site W) :
    (hostFacts b connection s).value =
      (hostFacts b connection s).state.gate.tracker.facts connection.host := by
  cases hr : s.gate.tracker.record? connection.host.host with
  | none => simp [hostFacts, Tracker.facts, hr]
  | some record =>
    by_cases hw : record.isWriter = true
    · simp [hostFacts, Tracker.facts, hr, hw]
    · -- The record that is judged is read again after the refresh, so it is the table's.
      have hvalue : (Watch.refresh b connection.id connection.host.host s.watch).value =
          (Watch.refresh b connection.id connection.host.host s.watch).state.tracker.record?
            connection.host.host := Watch.refresh_value
      cases hrefresh : (Watch.refresh b connection.id connection.host.host s.watch).value with
      | none =>
        rw [hrefresh] at hvalue
        simp [hostFacts, Tracker.facts, resume, hr, hw, hrefresh, ← hvalue]
      | some refreshed =>
        rw [hrefresh] at hvalue
        simp [hostFacts, Tracker.facts, resume, hr, hw, hrefresh, ← hvalue]

/-- The check makes no call on behalf of the caller. -/
theorem caller_not_mem_hostFacts (connection : Connection) (s : Site W) (id : ConnectionId)
    (request : Request) :
    .called id .caller request ∉ (hostFacts b connection s).events := by
  cases hr : s.gate.tracker.record? connection.host.host with
  | none => simp [hostFacts, hr]
  | some record =>
    by_cases hw : record.isWriter = true
    · simp [hostFacts, hr, hw]
    · cases hrefresh : (Watch.refresh b connection.id connection.host.host s.watch).value <;>
        simp [hostFacts, hr, hw, hrefresh, Watch.caller_not_mem_refresh]

/-- In strict-writer mode the check judges the facts, and does nothing else. -/
theorem enforce_strict {connection : Connection} {s : Site W}
    (h : s.gate.isStrict connection.id = true) (method : Method) (sql : Option String) :
    let judged := hostFacts b connection s
    let checked := enforce b connection method sql s
    checked.state = judged.state ∧
      checked.value =
        ((Policy.judge judged.value).mapError fun reason =>
          ({ method := method.name, host := connection.host.host, sql, reason } : Violation)).map
            (fun _ => ()) ∧
      ∀ id request, .called id .caller request ∉ checked.events := by
  simp [enforce, h, Policy.check, caller_not_mem_hostFacts]

section
variable {connection : Connection} {s : Site W}
  (hstrict : s.gate.isStrict connection.id = true) (method : Method) (sql : Option String)
include hstrict

/-- What the table permits passes the check. -/
theorem enforce_permitted :
    let checked := enforce b connection method sql s
    checked.state.gate.tracker.permits connection.host = true → checked.value = .ok () := by
  intro checked hpermits
  obtain ⟨hstate, hvalue, -⟩ := enforce_strict (b := b) hstrict method sql
  rw [hstate] at hpermits
  obtain ⟨permission, hjudge⟩ := Tracker.judge_of_permits hpermits
  rw [hvalue, hostFacts_value, hjudge]
  rfl

/-- What the table does not permit is refused. -/
theorem enforce_forbidden :
    let checked := enforce b connection method sql s
    let table := checked.state.gate.tracker
    table.permits connection.host = false →
      checked.value =
        .error ⟨method.name, connection.host.host, sql, table.refusal connection.host⟩ := by
  intro checked table hforbidden
  obtain ⟨hstate, hvalue, -⟩ := enforce_strict (b := b) hstrict method sql
  have hjudge := Tracker.judge_of_not_permits hforbidden
  rw [hvalue, hostFacts_value, ← hstate, hjudge]
  rfl

end

/-! ## Statements in strict-writer mode -/

section
variable {connection : Connection} {request : Request} {s : Site W}
  (hstatement : request.method.runsStatement = true)
  (hcommand : request.mode? s.gate.space = none)
  (hstrict : s.gate.isStrict connection.id = true)
include hstatement hcommand hstrict

/-- A statement that the table permits is up to the driver. -/
theorem callFor_permitted :
    let checked := enforce b connection request.method request.sql? s
    let call := callFor b (some connection) connection.id request s
    checked.state.gate.tracker.permits connection.host = true →
      .called connection.id .caller request ∈ call.events ∧
        call.value =
          (b.call checked.state.world connection.id request).2.result.mapError .driver := by
  intro checked call hpermits
  have hchecked : enforceOn b (some connection) request.method request.sql? s = checked := by
    simp only [enforceOn, hstatement, if_true]
    rfl
  have hok : (enforceOn b (some connection) request.method request.sql? s).value = .ok () :=
    hchecked ▸ enforce_permitted hstrict request.method request.sql? hpermits
  obtain ⟨hvalue, -, hcontacts⟩ :=
    callFor_pass b (some connection) connection.id request s (.inl hcommand)
  obtain ⟨hvalue', -, hcontacts'⟩ := proceed_allowed connection.id hok
  constructor
  · rw [← Event.called_mem_contacts, hcontacts, hcontacts', Watch.contacts_call]
    simp
  · rw [hvalue, hvalue', hchecked]
    rfl

/-- A statement that the table does not permit is refused, and nothing else happens. -/
theorem callFor_forbidden :
    let checked := enforce b connection request.method request.sql? s
    let table := checked.state.gate.tracker
    let call := callFor b (some connection) connection.id request s
    table.permits connection.host = false →
      .called connection.id .caller request ∉ call.events ∧
        call.value = .error (.refused
          ⟨request.method.name, connection.host.host, request.sql?,
            table.refusal connection.host⟩) ∧
        call.state = checked.state := by
  intro checked table call hforbidden
  have hchecked : enforceOn b (some connection) request.method request.sql? s = checked := by
    simp only [enforceOn, hstatement, if_true]
    rfl
  have herror : (enforceOn b (some connection) request.method request.sql? s).value = .error
      ⟨request.method.name, connection.host.host, request.sql?, table.refusal connection.host⟩ :=
    hchecked ▸ enforce_forbidden hstrict request.method request.sql? hforbidden
  obtain ⟨hvalue, hstate, hcontacts⟩ :=
    callFor_pass b (some connection) connection.id request s (.inl hcommand)
  rw [proceed_refused connection.id herror, hchecked] at hvalue hstate hcontacts
  refine ⟨?_, hvalue, hstate⟩
  -- The check makes no call of the caller.
  rw [← Event.called_mem_contacts, hcontacts, Event.called_mem_contacts]
  exact (enforce_strict hstrict request.method request.sql?).2.2 connection.id request

end

end Site

/-! ## The decision in a run -/

namespace Site

variable {W : Type} (b : Backend W)

/-- Whatever a run has done to a gate, and whatever happens to the cluster while a statement on a
connection in strict-writer mode is checked: the statement reaches the driver if and only if the
table at the end of the check permits it, and then the answer is the driver's. Otherwise it is
refused with its method, host and text, the reason tells whether the host is tracked, and of the
gate nothing but the host table has changed. -/
theorem strict_statement_decided {config : Config} {gate : Gate}
    (hnew : Gate.ofConfig config = .ok gate) (world : W) (ops : List (Operation W))
    (connection : Connection) (target : Target) (request : Request)
    (hheld : connection ∈ (after b ⟨gate, world⟩ ops).gate.handles)
    (htarget : target.owner = connection.id) (hstatement : request.method.runsStatement = true)
    (hcommand : request.mode? (after b ⟨gate, world⟩ ops).gate.space = none)
    (hstrict : (after b ⟨gate, world⟩ ops).gate.attribute? connection.id Command.modeAttribute =
      some "true") :
    let s := after b ⟨gate, world⟩ ops
    let checked := enforce b connection request.method request.sql? s
    let table := checked.state.gate.tracker
    let call := perform b (.call target request) s
    (.called connection.id .caller request ∈ call.events ↔
        table.permits connection.host = true) ∧
      (table.permits connection.host = true →
        call.value = .answered request
          ((b.call checked.state.world connection.id request).2.result.mapError .driver)) ∧
      (table.permits connection.host = false →
        ∃ reason,
          call.value = .answered request (.error (.refused
            ⟨request.method.name, connection.host.host, request.sql?, reason⟩)) ∧
          (reason = .untrackedHost ↔ table.record? connection.host.host = none) ∧
          call.state = checked.state ∧ call.state.gate = { s.gate with tracker := table }) := by
  intro s checked table call
  have hfound : s.gate.connection? target.owner = some connection := by
    rw [htarget]
    exact (numbered_after b hnew world ops).connection?_eq hheld
  have hmode : s.gate.isStrict connection.id = true := by
    rw [Gate.isStrict, hstrict]
    rfl
  have hcall : call = _ := perform_call_held b hfound request
  have hpermitted := callFor_permitted (b := b) hstatement hcommand hmode
  have hforbidden := callFor_forbidden (b := b) hstatement hcommand hmode
  rw [hcall]
  dsimp only
  -- The table at the end of the check decides, whatever came in while it ran.
  cases hpermits : table.permits connection.host with
  | true =>
    obtain ⟨hreached, hvalue⟩ := hpermitted hpermits
    exact ⟨iff_of_true hreached rfl, fun _ => congrArg _ hvalue, fun h => absurd h (by simp)⟩
  | false =>
    obtain ⟨hrefused, hvalue, hstate⟩ := hforbidden hpermits
    refine ⟨iff_of_false hrefused Bool.false_ne_true, fun h => absurd h Bool.false_ne_true,
      fun _ => ⟨_, congrArg _ hvalue, table.refusal_eq_untrackedHost_iff _, hstate, ?_⟩⟩
    rw [hstate]
    exact confined_enforce b connection request.method request.sql? s

/-- A reader that is promoted while it is asked about write forwarding runs the statement. -/
theorem strict_statement_decided_promoted :
    let b := Backend.moving [⟨"db", 5432, .writer⟩]
    let s := after b ⟨.plain, 0⟩
      [.connect "jdbc" ⟨"db", 5432, .reader⟩ ∅,
        .call (.connection ⟨0⟩) (.execute "SET SESSION ns.strict_writer = true"),
        .announce [⟨"db", 5432, .reader⟩]]
    let deletion : Request := .executeUpdate "DELETE FROM t"
    s.gate.tracker.record? "db" = some (.fresh "db" .reader none) ∧
      s.gate.attribute? ⟨0⟩ Command.modeAttribute = some "true" ∧
      .called ⟨0⟩ .caller deletion ∈
        (perform b (.call (.statement ⟨⟨0⟩⟩) deletion) s).events := by
  intro b s deletion
  let connection : Connection := ⟨⟨0⟩, ⟨"db", 5432, .reader⟩, .ofVersion (.ofLine "on") false⟩
  let checked := enforce b connection deletion.method deletion.sql? s
  obtain ⟨hreader, hheld, hcommand, hstrict, hpermits⟩ :
      s.gate.tracker.record? "db" = some (.fresh "db" .reader none) ∧
        connection ∈ s.gate.handles ∧ deletion.mode? s.gate.space = none ∧
        s.gate.attribute? connection.id Command.modeAttribute = some "true" ∧
        checked.state.gate.tracker.permits connection.host = true := by decide +kernel
  refine ⟨hreader, hstrict, ?_⟩
  have hdecided := strict_statement_decided b Gate.ofConfig_plain 0 _ connection
    (.statement ⟨⟨0⟩⟩) deletion hheld rfl rfl hcommand hstrict
  exact hdecided.1.mpr hpermits

end Site

end ClusterGate
