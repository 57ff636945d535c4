import ClusterGate.Cli.Task
import ClusterGate.Postgres.Scripted
import ClusterGate.Proofs.Emission
import ClusterGate.Proofs.Recognition
import ClusterGate.Proofs.Strictness

/-!
# Running one statement in strict-writer mode

The task that runs a statement in strict-writer mode first sends the control command for the
namespace as it is configured. Where that is recognised the mode is on when the statement comes, so
the statement is checked, and it reaches the driver exactly if the host table permits it
(`strict_exec_guarded`).

It is recognised unless the configured namespace ends in a blank character. In that case the command
goes to the server as any statement does, and the mode stays off.
-/

namespace ClusterGate

/-! ## Calls of a task -/

namespace Site

variable {W : Type} {b : Backend W}

/-- A command switches the mode of its connection. -/
theorem isStrict_setMode (g : Gate) (id : ConnectionId) (enabled : Bool) :
    (g.setMode id enabled).isStrict id = enabled := by
  have hattribute : (g.setMode id enabled).attribute? id Command.modeAttribute =
      some (Command.modeValue enabled) := by
    simp [Gate.attribute?, Gate.setMode, Sessions.get?, Sessions.find?_set, SessionEntry.set]
  rw [Gate.isStrict, hattribute]
  cases enabled <;> rfl

/-- A call that is no command makes at most the caller's call, after what its check asks. -/
theorem mem_callFor_events (connection : Connection) (request : Request) (s : Site W)
    (hcommand : request.mode? s.gate.space = none) {e : Event}
    (he : e ∈ (callFor b (some connection) connection.id request s).events) :
    e.IsProbe ∨ e = .called connection.id .caller request := by
  have hchecked : (enforceOn b (some connection) request.method request.sql?).Emits
      Event.IsProbe := by
    unfold enforceOn
    exact .ite (probes_enforce b connection _ _) _ (.pure _)
  rcases Event.isProbe_or_mem_contacts he with hprobe | hmem
  · exact .inl hprobe
  · obtain ⟨-, -, hcontacts⟩ :=
      callFor_pass b (some connection) connection.id request s (.inl hcommand)
    rw [hcontacts] at hmem
    cases hvalue : (enforceOn b (some connection) request.method request.sql? s).value with
    | error violation =>
      rw [proceed_refused connection.id hvalue] at hmem
      exact .inl (hchecked s e (List.mem_filter.mp hmem).1)
    | ok _ =>
      obtain ⟨-, -, hproceed⟩ := proceed_allowed connection.id hvalue
      rw [hproceed, Watch.contacts_call] at hmem
      rcases List.mem_append.mp hmem with hmem | hmem
      · exact .inl (hchecked s e (List.mem_filter.mp hmem).1)
      · exact .inr (List.mem_singleton.mp hmem)

/-- A statement on a connection in strict-writer mode makes the caller's call if the table permits
it when the check is over, and is refused otherwise. -/
theorem statement_guarded {connection : Connection} {request : Request} {s : Site W}
    (hstatement : request.method.runsStatement = true)
    (hcommand : request.mode? s.gate.space = none)
    (hstrict : s.gate.isStrict connection.id = true) :
    let table := (enforce b connection request.method request.sql? s).state.gate.tracker
    let call := callFor b (some connection) connection.id request s
    (.called connection.id .caller request ∈ call.events ↔ table.permits connection.host = true) ∧
      (table.permits connection.host = false → call.value = .error (.refused
        ⟨request.method.name, connection.host.host, request.sql?,
          table.refusal connection.host⟩)) := by
  intro table call
  constructor
  · constructor
    · intro hmem
      rw [← Bool.not_eq_false]
      intro hforbidden
      exact (callFor_forbidden hstatement hcommand hstrict hforbidden).1 hmem
    · intro hpermits
      exact (callFor_permitted hstatement hcommand hstrict hpermits).1
  · intro hforbidden
    exact (callFor_forbidden hstatement hcommand hstrict hforbidden).2.1

end Site

namespace Cli

variable {S : Type} (server : Postgres.Server S)

/-- The call that a statement is run by. -/
def statementRequest (sql : String) : Request :=
  if Postgres.returnsRows sql then .executeQuery sql else .executeLargeUpdate sql

theorem runsStatement_statementRequest (sql : String) :
    (statementRequest sql).method.runsStatement = true := by
  rw [statementRequest]
  split <;> rfl

@[simp] theorem sql?_statementRequest (sql : String) : (statementRequest sql).sql? = some sql := by
  rw [statementRequest]
  split <;> rfl

/-- A statement that is no command sets no mode. -/
theorem mode?_statementRequest {space : Namespace} {sql : String}
    (h : Command.detect space sql = none) : (statementRequest sql).mode? space = none := by
  rw [statementRequest]
  split
  · rfl
  · exact h

/-- Reaching the connection of a task makes no call for the caller. -/
theorem probes_reach (d : Destination) : (reach server d).Emits Event.IsProbe := by
  have hpublish : (publish d.topology : Act Event (Work S) _).Emits Event.IsProbe := by
    unfold publish
    cases d.topology with
    | none => exact .pure _
    | some raw => exact .bind (Site.probes_seed _) fun _ => .pure _
  unfold reach
  refine .bind hpublish fun published => ?_
  cases published with
  | error e => exact .pure _
  | ok topology =>
    refine .bind (Site.probes_log _) fun _ => ?_
    dsimp only
    split
    · exact .pure _
    · exact .pure _
    · refine .bind (Site.probes_connect _ _ _ _) fun opened => ?_
      cases opened <;> exact .pure _

theorem publish_space (topology : Option String) (s : Work S) :
    (publish topology s).state.gate.space = s.gate.space := by
  cases topology with
  | none => rfl
  | some raw => cases hlist : Listing.parse raw <;> simp [publish, Site.seed, Site.announce, hlist]

/-- Opening the connection of a task leaves the namespace as it is. -/
theorem reach_space (d : Destination) (s : Work S) :
    (reach server d s).state.gate.space = s.gate.space := by
  have hpublish := publish_space d.topology s
  cases hpublished : (publish d.topology s).value with
  | error e => simpa [reach, hpublished] using hpublish
  | ok topology =>
    cases hhost : selectHost d topology with
    | none => simpa [reach, hpublished, hhost] using hpublish
    | some host =>
      cases htarget : Postgres.Target.ofUrl? d.databaseUrl with
      | none => simpa [reach, hpublished, hhost, htarget] using hpublish
      | some target =>
        obtain ⟨hspace, -⟩ := Site.connect_gate (Postgres.Links.backend server target) d.protocol
          host ∅ (publish d.topology s).state
        rw [hpublish] at hspace
        cases hopened : (Site.connect (Postgres.Links.backend server target) d.protocol host ∅
          (publish d.topology s).state).value <;>
          simpa [reach, hpublished, hhost, htarget, hopened] using hspace

section
variable (b : Backend (Postgres.Links S)) (connection : Connection) (sql : String) {s : Work S}

/-- Running a statement is the call for it, with the answer as JSON. -/
theorem runStatement_call (s : Work S) :
    let call := Site.callConnection b connection (statementRequest sql) s
    let ran := runStatement b connection sql s
    ran.events = call.events ∧ ∀ e, call.value = .error e → ran.value = .error e := by
  by_cases hrows : Postgres.returnsRows sql = true
  · have hrequest : statementRequest sql = .executeQuery sql := if_pos hrows
    rw [hrequest]
    constructor
    · simp [runStatement, hrows]
    · intro e he
      simp [runStatement, hrows, he, Except.map]
  · have hrequest : statementRequest sql = .executeLargeUpdate sql := if_neg hrows
    rw [hrequest]
    constructor
    · simp [runStatement, hrows]
    · intro e he
      simp [runStatement, hrows, he, Except.map]

/-- Where its command is recognised, a strict task runs the statement in strict-writer mode. -/
theorem execute_commanded {config : Config}
    (hdetect : Command.detect s.gate.space (strictCommand config) = some true) :
    let command := Request.execute (strictCommand config)
    let commanded : Work S := { s with gate := s.gate.setMode connection.id true }
    let ran := runStatement b connection sql commanded
    let done := execute b config true sql connection s
    (Site.callConnection b connection command s).state = commanded ∧ done.value = ran.value ∧
      (∀ e ∈ done.events, e.IsProbe ∨ e ∈ ran.events) ∧ ∀ e ∈ ran.events, e ∈ done.events := by
  intro command commanded ran done
  obtain ⟨⟨acknowledgement, -, hvalue⟩, hstate, hcontacts⟩ :=
    Site.callFor_command b connection connection.id command s hdetect
  have hvalue' : (Site.callConnection b connection command s).value = .ok acknowledgement := hvalue
  have hstate' : (Site.callConnection b connection command s).state = commanded := hstate
  have hcontacts' : Event.contacts (Site.callConnection b connection command s).events = [] :=
    hcontacts
  have hdone : done.value = ran.value ∧ done.events =
      (Site.callConnection b connection command s).events ++
        (.logged (Log.info "Executing statement" [("host", .text connection.host.text),
          ("strict_writer", .flag true)]) :: ran.events) := by
    simp [done, ran, execute, hvalue', hstate', command]
  refine ⟨hstate', hdone.1, fun e he => ?_, fun e he => ?_⟩
  · rw [hdone.2] at he
    rcases List.mem_append.mp he with he | he
    · -- The driver takes no part in the command.
      rcases Event.isProbe_or_mem_contacts he with hprobe | hmem
      · exact .inl hprobe
      · rw [hcontacts'] at hmem
        cases hmem
    · rcases List.mem_cons.mp he with rfl | he
      · exact .inl trivial
      · exact .inr he
  · rw [hdone.2]
    exact List.mem_append_right _ (List.mem_cons_of_mem _ he)

/-- Closing a connection after some work adds the call for it, if the work did not fail. -/
theorem closing_events (work : Act Event (Work S) (Except CallError Json)) :
    let closed := closing b connection work s
    (∀ e ∈ closed.events,
        e ∈ (work s).events ∨ e.IsProbe ∨ e = .called connection.id .caller .close) ∧
      (∀ e ∈ (work s).events, e ∈ closed.events) ∧
      ∀ e, (work s).value = .error e → closed.value = .error e := by
  intro closed
  cases hvalue : (work s).value with
  | error failure =>
    have hclosed : closed = ⟨.error failure, (work s).state, (work s).events⟩ := by
      simp [closed, closing, bind, hvalue]
    rw [hclosed]
    exact ⟨fun e he => .inl he, fun e he => he, fun e he => he⟩
  | ok output =>
    have hevents : closed.events = (work s).events ++
        (Site.callConnection b connection .close (work s).state).events := by
      simp [closed, closing, hvalue]
    refine ⟨fun e he => ?_, fun e he => ?_, fun e he => by cases he⟩
    · rw [hevents] at he
      rcases List.mem_append.mp he with he | he
      · exact .inl he
      · exact .inr (Site.mem_callFor_events connection .close _ rfl he)
    · rw [hevents]
      exact List.mem_append_left _ he

end

section
variable {server} {d : Destination} {s : Work S}
  (work : Backend (Postgres.Links S) → Connection → Act Event (Work S) (Except CallError Json))

/-- A task whose connection cannot be reached ends there. -/
theorem onConnection_unreached {failure : Failure}
    (hreach : (reach server d s).value = .error failure) :
    onConnection server d work s =
      ⟨.error failure, (reach server d s).state, (reach server d s).events⟩ := by
  simp [onConnection, bind, hreach]

/-- A task that reaches its connection does its work on it, and otherwise probes and closes. -/
theorem onConnection_reached {b : Backend (Postgres.Links S)} {connection : Connection}
    (hreach : (reach server d s).value = .ok (b, connection)) :
    let worked := work b connection (reach server d s).state
    let task := onConnection server d work s
    (∀ e ∈ task.events,
        e ∈ worked.events ∨ e.IsProbe ∨ e = .called connection.id .caller .close) ∧
      (∀ e ∈ worked.events, e ∈ task.events) ∧
      ∀ e, worked.value = .error e → task.value = .error (.call e) := by
  intro worked task
  let closed := closing b connection (work b connection) (reach server d s).state
  have htask : task.value = closed.value.mapError .call ∧ task.events =
      (reach server d s).events ++ (closed.events ++
        (Site.release connection closed.state).events) := by
    simp [task, onConnection, closed, hreach]
  -- Around the work there are only probes and the close.
  obtain ⟨honly, hall, herror⟩ : _ ∧ _ ∧ _ := closing_events b connection (work b connection)
  refine ⟨fun e he => ?_, fun e he => ?_, fun e he => ?_⟩
  · rw [htask.2] at he
    rcases List.mem_append.mp he with he | he
    · exact .inr (.inl (probes_reach server d s e he))
    · rcases List.mem_append.mp he with he | he
      · exact honly e he
      · exact .inr (.inl (Site.probes_release connection _ e he))
  · rw [htask.2]
    exact List.mem_append_right _ (List.mem_append_left _ (hall e he))
  · rw [htask.1, show closed.value = .error e from herror e he]
    rfl

end

/-! ## The task -/

/-- The SQL that the library's own queries and closes carry is no command. -/
theorem detect_probe (space : Namespace) {request : Request} (h : request ∈ probeRequests) :
    request.sql?.bind (Command.detect space) = none := by
  simp only [probeRequests, List.mem_cons, List.not_mem_nil, or_false] at h
  rcases h with rfl | rfl | rfl | rfl <;> rfl

/-- The namespace of a gate is read from its configuration. -/
theorem ofText_space {config : Config} {gate : Gate} (hnew : Gate.ofConfig config = .ok gate) :
    Namespace.ofText config.commandNamespace = .ok gate.space := by
  rw [Gate.ofConfig] at hnew
  cases hspace : Namespace.ofText config.commandNamespace with
  | error fault =>
    rw [hspace] at hnew
    cases hnew
  | ok space =>
    rw [hspace] at hnew
    cases hnew
    rfl

section
variable {config : Config} (sql : String) {d : Destination} {s : Work S}
  {b : Backend (Postgres.Links S)} {connection : Connection}
  (hreached : (reach server d s).value = .ok (b, connection))
  (hdetect : Command.detect s.gate.space (strictCommand config) = some true)
include hreached hdetect

/-- What a strict task does on the connection that it reached: it switches the mode on without a
call, and then makes the call for the statement. -/
theorem strict_task_call :
    let reached := (reach server d s).state
    let commanded : Work S := { reached with gate := reached.gate.setMode connection.id true }
    let call := Site.callConnection b connection (statementRequest sql) commanded
    let task := onConnection server d (fun b => execute b config true sql) s
    (Site.callConnection b connection (.execute (strictCommand config)) reached).state =
        commanded ∧
      (∀ e ∈ task.events,
        e ∈ call.events ∨ e.IsProbe ∨ e = .called connection.id .caller .close) ∧
      (∀ e ∈ call.events, e ∈ task.events) ∧
      ∀ e, call.value = .error e → task.value = .error (.call e) := by
  intro reached commanded call task
  have hspace : reached.gate.space = s.gate.space := reach_space server d s
  obtain ⟨honly, hall, herror⟩ : _ ∧ _ ∧ _ :=
    onConnection_reached (fun b => execute b config true sql) hreached
  obtain ⟨hstate, hvalue, hworked, hran⟩ : _ ∧ _ ∧ _ ∧ _ :=
    execute_commanded b connection sql (hspace.symm ▸ hdetect)
  obtain ⟨hevents, hfailed⟩ : _ ∧ _ :=
    runStatement_call b connection sql commanded
  refine ⟨hstate, fun e he => ?_, fun e he => ?_, fun e he => ?_⟩
  · rcases honly e he with he | he
    · rcases hworked e he with hprobe | he
      · exact .inr (.inl hprobe)
      · exact .inl (hevents ▸ he)
    · exact .inr he
  · exact hall e (hran e (hevents.symm ▸ he))
  · exact herror e (hvalue.trans (hfailed e he))

variable (hsql : Command.detect s.gate.space sql = none)
include hsql

/-- Besides probes, a strict task makes the call for its statement and the close. -/
theorem strict_task_events {e : Event}
    (he : e ∈ (onConnection server d (fun b => execute b config true sql) s).events) :
    e.IsProbe ∨ e = .called connection.id .caller (statementRequest sql) ∨
      e = .called connection.id .caller .close := by
  obtain ⟨-, honly, -, -⟩ : _ ∧ _ ∧ _ ∧ _ := strict_task_call server sql hreached hdetect
  have hspace : (reach server d s).state.gate.space = s.gate.space := reach_space server d s
  rcases honly e he with he | hprobe | hclose
  · rcases Site.mem_callFor_events connection (statementRequest sql) _
      (mode?_statementRequest (hspace.symm ▸ hsql)) he with hprobe | hcall
    · exact .inl hprobe
    · exact .inr (.inl hcall)
  · exact .inl hprobe
  · exact .inr (.inr hclose)

/-- The mode is on when the statement comes, so the statement reaches the driver exactly if the host
table permits it when the check is over, and is refused otherwise. Nothing else is called but the
close. -/
theorem strict_task_guarded {commanded : Work S}
    (hcommanded : (Site.callConnection b connection (.execute (strictCommand config))
      (reach server d s).state).state = commanded) :
    let request := statementRequest sql
    let table :=
      (Site.enforce b connection request.method (some sql) commanded).state.gate.tracker
    let task := onConnection server d (fun b => execute b config true sql) s
    commanded.gate.isStrict connection.id = true ∧
      (.called connection.id .caller request ∈ task.events ↔
        table.permits connection.host = true) ∧
      (table.permits connection.host = false → task.value = .error (.call (.refused
        ⟨request.method.name, connection.host.host, some sql,
          table.refusal connection.host⟩))) ∧
      ∀ e ∈ task.events, e.IsProbe ∨ e = .called connection.id .caller request ∨
        e = .called connection.id .caller .close := by
  obtain ⟨hstate, honly, hall, herror⟩ : _ ∧ _ ∧ _ ∧ _ :=
    strict_task_call server sql hreached hdetect
  have hspace : (reach server d s).state.gate.space = s.gate.space := reach_space server d s
  rw [hstate] at hcommanded
  rw [hcommanded] at honly hall herror
  have hstrict : commanded.gate.isStrict connection.id = true := by
    rw [← hcommanded]
    exact Site.isStrict_setMode (reach server d s).state.gate connection.id true
  have hmode : (statementRequest sql).mode? commanded.gate.space = none := by
    rw [← hcommanded]
    exact mode?_statementRequest (hspace.symm ▸ hsql)
  -- From here on this is a statement on a connection in strict-writer mode.
  obtain ⟨hcalled, hrefused⟩ : _ ∧ _ := Site.statement_guarded (b := b)
    (runsStatement_statementRequest sql) hmode hstrict
  rw [sql?_statementRequest] at hcalled hrefused
  intro request table task
  refine ⟨hstrict, ⟨fun he => ?_, fun hpermits => ?_⟩, fun hforbidden => ?_,
    fun e he => strict_task_events server sql hreached hdetect hsql he⟩
  · rcases honly _ he with he | hprobe | hclose
    · exact hcalled.mp he
    · cases hprobe.1
    · -- A statement has SQL, and a close has none.
      have hrequest : statementRequest sql = .close := by
        injection hclose
      have hnone := congrArg Request.sql? hrequest
      rw [sql?_statementRequest] at hnone
      cases hnone
  · exact hall _ (hcalled.mpr hpermits)
  · exact herror _ (hrefused hforbidden)

end

/-- The command of a strict task is recognised exactly if the configured namespace does not end in a
blank character. Where it is recognised, it reaches no driver, the mode is on when the statement
comes, and the statement reaches the driver exactly if the host table permits the host of the
connection when the check is over; otherwise it is refused. Besides probes the task calls the driver
for nothing else than this statement and the close. A protocol that the driver does not take ends
the task before any of this. -/
theorem strict_exec_guarded {config : Config} {gate : Gate}
    (hnew : Gate.ofConfig config = .ok gate) {sql : String}
    (hsql : Command.detect gate.space sql = none) (d : Destination) (servers : Postgres.Links S) :
    (Command.detect gate.space (strictCommand config) = some true ↔
        Text.endsBlank config.commandNamespace = false) ∧
      (Text.endsBlank config.commandNamespace = false →
        let reached := reach server d ⟨gate, servers⟩
        let task := onConnection server d (fun b => execute b config true sql) ⟨gate, servers⟩
        let done := Task.run server config servers (.exec d true sql)
        (Provider.acceptsProtocol d.protocol = false →
            done.result = .error (.protocol d.protocol) ∧ done.servers = servers) ∧
          (Provider.acceptsProtocol d.protocol = true →
            done.result = task.value ∧ done.servers = task.state.world) ∧
          (∀ id origin request, .called id origin request ∈ task.events →
            request.sql? ≠ some (strictCommand config)) ∧
          (∀ failure, reached.value = .error failure →
            task.value = .error failure ∧ ∀ e ∈ task.events, e.IsProbe) ∧
          ∀ b connection, reached.value = .ok (b, connection) →
            let command := Request.execute (strictCommand config)
            let ready := (Site.callConnection b connection command reached.state).state
            let request := statementRequest sql
            let table :=
              (Site.enforce b connection request.method (some sql) ready).state.gate.tracker
            ready.gate.isStrict connection.id = true ∧
              (.called connection.id .caller request ∈ task.events ↔
                table.permits connection.host = true) ∧
              (table.permits connection.host = false → task.value = .error (.call (.refused
                ⟨request.method.name, connection.host.host, some sql,
                  table.refusal connection.host⟩))) ∧
              ∀ e ∈ task.events, e.IsProbe ∨ e = .called connection.id .caller request ∨
                e = .called connection.id .caller .close) := by
  have hrecognised := Command.detect_statement (ofText_space hnew) true
  constructor
  · rw [strictCommand, hrecognised]
    cases Text.endsBlank config.commandNamespace <;> simp
  · intro hends reached task done
    rw [hends] at hrecognised
    have hdetect : Command.detect gate.space (strictCommand config) = some true := hrecognised
    -- The statement is another text than the command, and so are the library's own queries.
    have hnoCommand {request : Request} (h : request.sql?.bind (Command.detect gate.space) = none) :
        request.sql? ≠ some (strictCommand config) := by
      intro hcommand
      rw [hcommand, Option.bind_some, hdetect] at h
      cases h
    have hforeign : Provider.acceptsProtocol d.protocol = false →
        done.result = .error (.protocol d.protocol) ∧ done.servers = servers := by
      intro hprotocol
      simp [done, Task.run, onGate, hprotocol]
    have hrun : Provider.acceptsProtocol d.protocol = true →
        done.result = task.value ∧ done.servers = task.state.world := by
      intro hprotocol
      simp [done, task, Task.run, onGate, hprotocol, hnew]
    refine ⟨hforeign, hrun, ?_⟩
    cases hreached : reached.value with
    | error failure =>
      have htask : task = ⟨.error failure, reached.state, reached.events⟩ :=
        onConnection_unreached (fun b => execute b config true sql) hreached
      have hprobes : ∀ e ∈ task.events, e.IsProbe := by
        rw [htask]
        exact probes_reach server d ⟨gate, servers⟩
      refine ⟨fun id origin request he => ?_, ?_, fun b connection hother => by cases hother⟩
      · exact hnoCommand (detect_probe gate.space (hprobes _ he).2)
      · rintro failure' ⟨rfl⟩
        exact ⟨by rw [htask], hprobes⟩
    | ok opened =>
      obtain ⟨b, connection⟩ := opened
      refine ⟨fun id origin request he => ?_, fun failure hother => (by cases hother), ?_⟩
      · rcases strict_task_events server sql hreached hdetect hsql he with hprobe | hcall | hclose
        · exact hnoCommand (detect_probe gate.space hprobe.2)
        · cases hcall
          exact hnoCommand (by rw [sql?_statementRequest]; exact hsql)
        · cases hclose
          exact hnoCommand rfl
      · rintro b' connection' ⟨rfl⟩
        exact strict_task_guarded server sql hreached hdetect hsql rfl

open Postgres (ScriptedServers)

/-- A server that listens, and answers as a healthy one. -/
def listening : Postgres.Links ScriptedServers := .start (.start [("db", 5432)] ∅)

def writerTarget : Destination where
  databaseUrl := "postgres://app@localhost/app"
  host := none
  port := 5432
  role := .writer
  topology := some "writer:db:5432"
  protocol := "jdbc:postgresql:"

/-- The same server as a reader, which does not forward writes. -/
def readerTarget : Destination :=
  { writerTarget with role := .reader, topology := some "reader:db:5432" }

/-- On a writer the statement is sent, and the command is not. -/
theorem strict_exec_guarded_writer :
    let task := onConnection ScriptedServers.server writerTarget
      (fun b => execute b .plain true "INSERT INTO t VALUES (1)") ⟨.plain, listening⟩
    .called ⟨0⟩ .caller (.executeLargeUpdate "INSERT INTO t VALUES (1)") ∈ task.events ∧
      ∀ id origin request, .called id origin request ∈ task.events →
        request.sql? ≠ some (strictCommand .plain) := by
  have hsql : Command.detect Gate.plain.space "INSERT INTO t VALUES (1)" = none := by
    decide +kernel
  have hends : Text.endsBlank Config.plain.commandNamespace = false := by decide +kernel
  obtain ⟨-, hguarded⟩ := strict_exec_guarded ScriptedServers.server Gate.ofConfig_plain hsql
    writerTarget listening
  obtain ⟨-, -, hcommand, -⟩ := hguarded hends
  refine ⟨?_, hcommand⟩
  decide +kernel

/-- A namespace with a blank character after it makes a gate, but the command for it is sent to the
server, and so is a statement that strict-writer mode would refuse. -/
theorem strict_exec_trailing_blank :
    let config : Config := { Config.plain with commandNamespace := "ns " }
    let sql := "INSERT INTO t VALUES (1)"
    let seen (config : Config) :=
      (Task.run ScriptedServers.server config listening
        (.exec readerTarget true sql)).servers.server.seen
    (Gate.ofConfig config).isOk = true ∧
      .statement "db" (strictCommand config) ∈ seen config ∧ .statement "db" sql ∈ seen config ∧
      .statement "db" sql ∉ seen .plain := by
  decide +kernel

end Cli

end ClusterGate
