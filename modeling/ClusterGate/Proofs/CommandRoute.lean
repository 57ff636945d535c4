import ClusterGate.Proofs.Elsewhere
import ClusterGate.Proofs.Grammar
import ClusterGate.Proofs.StrictTask
import ClusterGate.Proofs.Transaction

/-!
# Commands that are given to a task

A task runs a statement for its rows or for its count, whichever its beginning calls for, and only a
call for the count is looked through for control commands. So it matters that no command is taken
for a statement that returns rows. The two are told apart by different notions of case: the command
is read by folding, and the beginning of a statement is compared in upper case, which may be longer
than the text itself. All the same a command always begins with `SET` in upper case
(`Postgres.returnsRows_of_detect`).

A task that is given a command therefore never sends it. On the side of the driver there is no call
with this SQL, and on the side of the server every property is kept that only running this SQL could
end (`Postgres.Server.KeepsUnless`). This is `Cli.recognised_never_sent`.
-/

namespace ClusterGate

/-! ## Keywords in upper case -/

namespace Text

/-- The letters S, E and T are the only upper case of what agrees with them, a long s included. -/
theorem upper_of_agree_set {p : Char} (hp : p ∈ "SET".toList) {c : Char} (h : fold c = fold p) :
    upper c = [p] :=
  of_unfolded (upper · = [·]) (by decide +kernel) hp h

end Text

namespace Command

/-- A command begins with `SET` in some spelling, after blank characters. -/
theorem exists_set_of_detect {space : Namespace} {sql : String} {enabled : Bool}
    (h : detect space sql = some enabled) :
    ∃ word rest, Text.skipBlank sql.toList = word ++ rest ∧ Text.Agree word "SET".toList := by
  simp only [detect, recognise, bind, Option.bind_eq_some_iff] at h
  obtain ⟨rest, hset, -⟩ := h
  obtain ⟨word, hsplit, hagree⟩ := Text.afterLiteral?_eq_some hset
  exact ⟨word, rest, hsplit, hagree⟩

end Command

namespace Postgres

/-- No command is taken for a statement that returns rows. -/
theorem returnsRows_of_detect {space : Namespace} {sql : String} {enabled : Bool}
    (h : Command.detect space sql = some enabled) : returnsRows sql = false := by
  obtain ⟨word, rest, hsplit, hagree⟩ := Command.exists_set_of_detect h
  have hraised : word.flatMap Text.upper = "SET".toList :=
    Text.flatMap_of_agree (fun _ hp _ => Text.upper_of_agree_set hp) hagree
  rw [returnsRows, hsplit, List.flatMap_append, hraised]
  rfl

/-- A command ends no transaction and begins none. -/
theorem not_mem_controlStatements {space : Namespace} {sql : String} {enabled : Bool}
    (h : Command.detect space sql = some enabled) : sql ∉ controlStatements := by
  intro hmem
  simp only [controlStatements, List.mem_cons, List.not_mem_nil, or_false] at hmem
  rcases hmem with rfl | rfl | rfl
  · cases h
  · cases h
  · cases h

/-! ## What a server is asked to run -/

/-- The property of a server's state is kept by all that is asked of the server, save perhaps by
running this SQL. -/
structure Server.KeepsUnless {S : Type} (server : Server S) (sql : String) (I : S → Prop) :
    Prop where
  login : ∀ s id l, I s → I (server.login s id l).1
  run : ∀ s id other, other ≠ sql → I s → I (server.run s id other).1
  ping : ∀ s id, I s → I (server.ping s id).1
  logout : ∀ s id, I s → I (server.logout s id).1

namespace Line

variable {S : Type} {server : Server S} {sql : String} {I : S → Prop}
  (h : server.KeepsUnless sql I) (id : ConnectionId) {line : Line S}
include h

/-- What is sent is some other statement, so the server keeps the property. -/
theorem keeps_send {other : String} (hother : other ≠ sql) (hline : I line.server) :
    I (send server id other line).state.server := by
  by_cases hopen : line.link.connected = true
  · have hrun := h.run line.server id other hother hline
    simpa [send, hopen] using hrun
  · simpa [send, hopen] using hline

theorem keeps_run {other : String} (hother : other ≠ sql) (hline : I line.server) :
    I (run server id other line).state.server :=
  keeps_send h id hother hline

theorem keeps_endTransaction {statement : String} (hstatement : statement ≠ sql)
    (hbegin : "BEGIN" ≠ sql) (hline : I line.server) :
    I (endTransaction server id statement line).state.server := by
  cases hauto : line.link.autoCommit with
  | true =>
    rw [endTransaction_auto server id hauto]
    exact hline
  | false =>
    have hended := keeps_run h id hstatement hline
    obtain ⟨hfailed, hok⟩ : _ ∧ _ := endTransaction_manual server id hauto statement
    cases hvalue : (run server id statement line).value.isOk with
    | false =>
      rw [(hfailed hvalue).2]
      exact hended
    | true =>
      rw [(hok hvalue).2]
      exact keeps_run h id hbegin hended

theorem keeps_setAutoCommit (hbegin : "BEGIN" ≠ sql) (hcommit : "COMMIT" ≠ sql) (enabled : Bool)
    (hline : I line.server) : I (setAutoCommit server id enabled line).state.server := by
  by_cases hsame : line.link.autoCommit = enabled
  · have hstate : (setAutoCommit server id enabled line).state = line := by
      simp [setAutoCommit, hsame]
    rw [hstate]
    exact hline
  · have hstatement : (if enabled then "COMMIT" else "BEGIN") ≠ sql := by
      split
      · exact hcommit
      · exact hbegin
    have hran := keeps_run h id hstatement hline
    obtain ⟨hfailed, hok⟩ : _ ∧ _ := setAutoCommit_switch server id hsame
    cases hvalue : (run server id (if enabled then "COMMIT" else "BEGIN") line).value.isOk with
    | false =>
      rw [(hfailed hvalue).2]
      exact hran
    | true =>
      rw [(hok hvalue).2]
      exact hran

/-- A call runs the SQL of the caller and statements that control transactions, and no other. -/
theorem keeps_call {request : Request} (hrequest : request.sql? ≠ some sql)
    (hcontrol : sql ∉ controlStatements) (hline : I line.server) :
    I (call server id request line).state.server := by
  simp only [controlStatements, List.mem_cons, List.not_mem_nil, or_false, not_or] at hcontrol
  obtain ⟨hbegin, hcommit, hrollback⟩ := hcontrol
  cases hsql : request.sql? with
  | some other =>
    rw [call_statement_state server id hsql]
    exact keeps_send h id (fun heq => hrequest (hsql.trans (congrArg some heq))) hline
  | none =>
    cases request with
    | commit => exact keeps_endTransaction h id (Ne.symm hcommit) (Ne.symm hbegin) hline
    | rollback => exact keeps_endTransaction h id (Ne.symm hrollback) (Ne.symm hbegin) hline
    | setAutoCommit enabled =>
      exact keeps_setAutoCommit h id (Ne.symm hbegin) (Ne.symm hcommit) enabled hline
    | isValid =>
      by_cases hopen : line.link.connected = true
      · simpa [call, isValid, hopen] using h.ping line.server id hline
      · simpa [call, isValid, hopen] using hline
    | close =>
      by_cases hopen : line.link.connected = true
      · simpa [call, close, hopen] using h.logout line.server id hline
      · simpa [call, close, hopen] using hline
    | _ => cases hsql

end Line

namespace Links

variable {S : Type} {server : Server S} {sql : String} {I : S → Prop}
  (h : server.KeepsUnless sql I) (target : Target) (id : ConnectionId) {w : Links S}
include h

theorem keeps_connect (protocol : String) (host : HostSpec) (props : Properties)
    (hw : I w.server) :
    I ((backend server target).connect w id protocol host props).1.server := by
  have hlogin := h.login w.server id (target.login host props) hw
  show I (w.connect server target id protocol host props).1.server
  rw [connect]
  split
  · next s m hanswer =>
    rw [hanswer] at hlogin
    exact hlogin
  · next s hanswer =>
    rw [hanswer] at hlogin
    exact hlogin

theorem keeps_backend_call {request : Request} (hrequest : request.sql? ≠ some sql)
    (hcontrol : sql ∉ controlStatements) (hw : I w.server) :
    I ((backend server target).call w id request).1.server := by
  show I (w.call server id request).1.server
  rw [call]
  split
  · exact hw
  · exact Line.keeps_call h id hrequest hcontrol hw

end Links

end Postgres

/-! ## What a task does with a command -/

namespace Cli

open Postgres (Links ScriptedServers)

variable {S : Type} {server : Postgres.Server S}

/-- A command begins with no word for rows, so it is run for its count. -/
theorem statementRequest_of_detect {space : Namespace} {sql : String} {enabled : Bool}
    (h : Command.detect space sql = some enabled) :
    statementRequest sql = .executeLargeUpdate sql := by
  rw [statementRequest, Postgres.returnsRows_of_detect h]
  rfl

/-- What a task does before its statement: it sends the command for strict-writer mode, if that is
wanted. -/
def prepare (b : Backend (Links S)) (config : Config) (strict : Bool) (connection : Connection) :
    Act Event (Work S) (Except CallError Bool) := do
  if strict then Site.callConnection b connection (.execute (strictCommand config))
  else return .ok false

section
variable (b : Backend (Links S)) (config : Config) (connection : Connection) (s : Work S)

theorem prepare_lax : prepare b config false connection s = ⟨.ok false, s, []⟩ := rfl

/-- The command that begins the mode is itself a call through the gate. -/
theorem prepare_strict : prepare b config true connection s =
    Site.callFor b (some connection) connection.id (.execute (strictCommand config)) s := by
  rw [prepare, if_pos rfl, Site.callConnection]

end

/-- What running a command answers. -/
def noRows : Json := .ofMembers [("rowsAffected", .int 0)]

section
variable (b : Backend (Links S)) (config : Config) (strict : Bool) {sql : String}
  (connection : Connection) {s : Work S} {enabled : Bool}

/-- A call for the count is where commands are looked for: it is answered by zero, and switches the
mode. -/
theorem callConnection_command {W : Type} (b : Backend W) {s : Site W}
    (h : Command.detect s.gate.space sql = some enabled) :
    let call := Site.callConnection b connection (.executeLargeUpdate sql) s
    call.value = .ok (0 : Int) ∧
      call.state = { s with gate := s.gate.setMode connection.id enabled } ∧
      Event.contacts call.events = [] := by
  obtain ⟨⟨acknowledgement, hzero, hvalue⟩, hstate, hcontacts⟩ :=
    Site.callFor_command b connection connection.id (.executeLargeUpdate sql) s h
  cases hzero
  exact ⟨hvalue, hstate, hcontacts⟩

/-- Running a command answers a count of zero, sets the mode and asks the driver nothing. -/
theorem runStatement_command (h : Command.detect s.gate.space sql = some enabled) :
    let ran := runStatement b connection sql s
    ran.value = .ok noRows ∧
      ran.state = { s with gate := s.gate.setMode connection.id enabled } ∧
      Event.contacts ran.events = [] := by
  obtain ⟨hvalue, hstate, hcontacts⟩ := callConnection_command connection b h
  have hrows := Postgres.returnsRows_of_detect h
  simp [runStatement, hrows, hvalue, hstate, hcontacts, noRows, Except.map]

/-- Whatever is sent to prepare a statement, the namespace stays. -/
theorem prepare_space : (prepare b config strict connection s).state.gate.space = s.gate.space := by
  rw [prepare]
  split
  · exact (Site.callFor_alike b (some connection) connection.id _ s).space
  · rfl

/-- The statement is run where the preparation succeeds. -/
theorem execute_prepared (sql : String) :
    let prepared := prepare b config strict connection s
    let ran := runStatement b connection sql prepared.state
    let done := execute b config strict sql connection s
    (∀ e, prepared.value = .error e → done = ⟨.error e, prepared.state, prepared.events⟩) ∧
      ∀ answer, prepared.value = .ok answer → done.value = ran.value ∧ done.state = ran.state ∧
        Event.contacts done.events =
          Event.contacts prepared.events ++ Event.contacts ran.events := by
  intro prepared ran done
  cases strict with
  | false =>
    refine ⟨fun e he => ?_, fun answer _ => ?_⟩
    · simp [prepared, prepare_lax] at he
    · simp [done, ran, prepared, execute, prepare_lax]
  | true =>
    refine ⟨fun e he => ?_, fun answer hanswer => ?_⟩
    · simp only [prepared, prepare_strict] at he
      simp [done, prepared, execute, prepare_strict, Site.callConnection, bind, he]
    · simp only [prepared, prepare_strict] at hanswer
      simp [done, ran, prepared, execute, prepare_strict, Site.callConnection, hanswer]

/-- A task that is given a command runs it on its connection without a call. -/
theorem execute_command (h : Command.detect s.gate.space sql = some enabled) :
    let prepared := prepare b config strict connection s
    let executed := execute b config strict sql connection s
    (∀ e, prepared.value = .error e → executed.value = .error e ∧
        executed.state = prepared.state) ∧
      (∀ answer, prepared.value = .ok answer → executed.value = .ok noRows ∧
        executed.state =
          (Site.callConnection b connection (.executeLargeUpdate sql) prepared.state).state) ∧
      ∀ e ∈ executed.events, e.IsProbe ∨ e ∈ prepared.events := by
  intro prepared executed
  have h' : Command.detect prepared.state.gate.space sql = some enabled := by
    rw [prepare_space]
    exact h
  obtain ⟨hvalue, hstate, hcontacts⟩ := runStatement_command b connection h'
  obtain ⟨-, hconsumed, -⟩ := callConnection_command connection b h'
  obtain ⟨hfailed, hran⟩ := execute_prepared b config strict connection (s := s) sql
  refine ⟨fun e he => ?_, fun answer hanswer => ?_, fun e he => ?_⟩
  · have hended : executed = ⟨.error e, prepared.state, prepared.events⟩ := hfailed e he
    rw [hended]
    exact ⟨rfl, rfl⟩
  · obtain ⟨hvalue', hstate', -⟩ := hran answer hanswer
    exact ⟨hvalue'.trans hvalue, hstate'.trans (hstate.trans hconsumed.symm)⟩
  · rcases Event.isProbe_or_mem_contacts he with hprobe | hmem
    · exact .inl hprobe
    · -- Running the command asks the driver nothing, so the event is one of the preparation.
      refine .inr ?_
      cases hprepared : prepared.value with
      | error failure =>
        have hended : executed = ⟨.error failure, prepared.state, prepared.events⟩ :=
          hfailed failure hprepared
        rw [hended] at he
        exact he
      | ok answer =>
        obtain ⟨-, -, hevents⟩ := hran answer hprepared
        have hmem' : e ∈ Event.contacts executed.events := hmem
        rw [hevents, hcontacts, List.append_nil] at hmem'
        exact (List.mem_filter.mp hmem').1

theorem execute_space (h : Command.detect s.gate.space sql = some enabled) :
    (execute b config strict sql connection s).state.gate.space = s.gate.space := by
  have hspace := prepare_space b config strict connection (s := s)
  obtain ⟨hfailed, hdone, -⟩ := execute_command b config strict connection h
  cases hvalue : (prepare b config strict connection s).value with
  | error e =>
    rw [(hfailed e hvalue).2]
    exact hspace
  | ok answer =>
    rw [(hdone answer hvalue).2]
    exact (Site.callFor_alike b (some connection) connection.id _ _).space.trans hspace

/-- The command for strict-writer mode is sent where it is not recognised. -/
theorem mem_prepare_events {e : Event}
    (he : e ∈ (prepare b config strict connection s).events) :
    e.IsProbe ∨ Command.detect s.gate.space (strictCommand config) = none ∧
      e = .called connection.id .caller (.execute (strictCommand config)) := by
  cases strict with
  | false =>
    rw [prepare_lax] at he
    cases he
  | true =>
    rw [prepare_strict] at he
    cases hmode : Command.detect s.gate.space (strictCommand config) with
    | none =>
      rcases Site.mem_callFor_events connection (.execute (strictCommand config)) s hmode he
        with hprobe | hcall
      · exact .inl hprobe
      · exact .inr ⟨rfl, hcall⟩
    | some mode =>
      obtain ⟨-, -, hcontacts⟩ :=
        Site.callFor_command b connection connection.id (.execute (strictCommand config)) s hmode
      rcases Event.isProbe_or_mem_contacts he with hprobe | hmem
      · exact .inl hprobe
      · rw [hcontacts] at hmem
        cases hmem

end

section
variable {d : Destination} {s : Work S} {b : Backend (Links S)} {connection : Connection}
  (work : Backend (Links S) → Connection → Act Event (Work S) (Except CallError Json))
  (hreached : (reach server d s).value = .ok (b, connection))
include hreached

/-- What a task comes to that reaches its connection: what its work and the close after it do. -/
theorem onConnection_outcome :
    let worked := work b connection (reach server d s).state
    let closed := Site.callConnection b connection .close worked.state
    let task := onConnection server d work s
    (∀ e, worked.value = .error e → task.value = .error (.call e) ∧
        task.state.world = worked.state.world) ∧
      ∀ output, worked.value = .ok output →
        task.value = (closed.value.map fun _ => output).mapError .call ∧
          task.state.world = closed.state.world := by
  intro worked closed task
  refine ⟨fun e he => ?_, fun output houtput => ?_⟩
  · have hfailed : (work b connection (reach server d s).state).value = .error e := he
    simp [task, worked, onConnection, closing, hreached, hfailed, Except.mapError]
  · have hdone : (work b connection (reach server d s).state).value = .ok output := houtput
    simp [task, closed, worked, onConnection, closing, hreached, hdone]

/-- The connection that is reached is one to the servers of the task. -/
theorem exists_backend : ∃ target, b = Links.backend server target := by
  cases hpublished : (publish d.topology s).value with
  | error e => simp [reach, hpublished] at hreached
  | ok topology =>
    cases hhost : selectHost d topology with
    | none => simp [reach, hpublished, hhost] at hreached
    | some host =>
      cases htarget : Postgres.Target.ofUrl? d.databaseUrl with
      | none => simp [reach, hpublished, hhost, htarget] at hreached
      | some target =>
        cases hopened : (Site.connect (Links.backend server target) d.protocol host ∅
          (publish d.topology s).state).value with
        | error e => simp [reach, hpublished, hhost, htarget, hopened] at hreached
        | ok opened =>
          simp only [reach, Act.bind_value, hpublished, hhost, htarget, Site.log_apply,
            hopened, Act.pure_value, Except.ok.injEq, Prod.mk.injEq] at hreached
          exact ⟨target, hreached.1.symm⟩

end

/-- Publishing a topology asks nothing of the servers. -/
theorem publish_world (topology : Option String) (s : Work S) :
    (publish topology s).state.world = s.world := by
  cases topology with
  | none => rfl
  | some raw => cases hlist : Listing.parse raw <;> simp [publish, Site.seed, Site.announce, hlist]

/-! ## What a task asks of the servers -/

section
variable {sql : String} {I : S → Prop} (hkeeps : server.KeepsUnless sql I) {s : Work S}
  {enabled : Bool} (hdetect : Command.detect s.gate.space sql = some enabled)
include hkeeps hdetect

/-- No query of a probe is a command, so probing keeps the property. -/
theorem keeps_probe (target : Postgres.Target) (id : ConnectionId) :
    ∀ w : Links S, ∀ request ∈ probeRequests, I w.server →
      I ((Links.backend server target).call w id request).1.server := by
  intro w request hprobe hw
  refine Links.keeps_backend_call hkeeps target id (fun hsql => ?_)
    (Postgres.not_mem_controlStatements hdetect) hw
  have hnone := detect_probe s.gate.space hprobe
  rw [hsql, Option.bind_some, hdetect] at hnone
  cases hnone

theorem keeps_reach (d : Destination) (hs : I s.world.server) :
    I (reach server d s).state.world.server := by
  have hpublish : I (publish d.topology s).state.world.server := by
    rw [publish_world]
    exact hs
  cases hpublished : (publish d.topology s).value with
  | error e => simpa [reach, hpublished] using hpublish
  | ok topology =>
    cases hhost : selectHost d topology with
    | none => simpa [reach, hpublished, hhost] using hpublish
    | some host =>
      cases htarget : Postgres.Target.ofUrl? d.databaseUrl with
      | none => simpa [reach, hpublished, hhost, htarget] using hpublish
      | some target =>
        have hconnect : I (Site.connect (Links.backend server target) d.protocol host ∅
            (publish d.topology s).state).state.world.server :=
          Site.world_connect (P := fun w : Links S => I w.server)
            (Links.keeps_connect hkeeps target _ d.protocol host ∅ hpublish)
            (keeps_probe hkeeps hdetect target _)
        cases hopened : (Site.connect (Links.backend server target) d.protocol host ∅
          (publish d.topology s).state).value <;>
          simpa [reach, hpublished, hhost, htarget, hopened] using hconnect

/-- A call with this SQL is kept from the servers if it is one in which commands are looked for. -/
theorem keeps_callConnection (target : Postgres.Target) (connection : Connection)
    {request : Request} (hrequest : request.mode? s.gate.space = none → request.sql? ≠ some sql)
    (hs : I s.world.server) :
    I (Site.callConnection (Links.backend server target) connection request s).state.world.server :=
  by
  have hself : ∀ held ∈ some connection, held.id = connection.id := by
    rintro held ⟨rfl⟩
    rfl
  refine Site.world_callFor (P := fun w : Links S => I w.server)
    (keeps_probe hkeeps hdetect target connection.id) hself (fun hpass w hw => ?_) hs
  rcases hpass with hmode | hnone
  · exact Links.keeps_backend_call hkeeps target connection.id (hrequest hmode)
      (Postgres.not_mem_controlStatements hdetect) hw
  · cases hnone

theorem keeps_prepare (target : Postgres.Target) (config : Config) (strict : Bool)
    (connection : Connection) (hs : I s.world.server) :
    I (prepare (Links.backend server target) config strict connection s).state.world.server := by
  cases strict with
  | false =>
    rw [prepare_lax]
    exact hs
  | true =>
    rw [prepare_strict]
    refine keeps_callConnection hkeeps hdetect target connection (fun hmode hsql => ?_) hs
    have hnone : Command.detect s.gate.space (strictCommand config) = none := hmode
    have hsame : strictCommand config = sql := Option.some.inj hsql
    rw [hsame, hdetect] at hnone
    cases hnone

theorem keeps_execute (target : Postgres.Target) (config : Config) (strict : Bool)
    (connection : Connection) (hs : I s.world.server) :
    I (execute (Links.backend server target) config strict sql connection s).state.world.server :=
  by
  have hprepared := keeps_prepare hkeeps hdetect target config strict connection hs
  obtain ⟨hfailed, hdone, -⟩ :=
    execute_command (Links.backend server target) config strict connection hdetect
  cases hvalue : (prepare (Links.backend server target) config strict connection s).value with
  | error e =>
    rw [(hfailed e hvalue).2]
    exact hprepared
  | ok answer =>
    have hdetect' : Command.detect
        (prepare (Links.backend server target) config strict connection s).state.gate.space sql =
          some enabled := by
      rw [prepare_space]
      exact hdetect
    rw [(hdone answer hvalue).2, (callConnection_command connection _ hdetect').2.1]
    exact hprepared

theorem keeps_task (config : Config) (strict : Bool) (d : Destination) (hs : I s.world.server) :
    I (onConnection server d (fun b => execute b config strict sql) s).state.world.server := by
  have hreach := keeps_reach hkeeps hdetect d hs
  cases hreached : (reach server d s).value with
  | error failure =>
    rw [onConnection_unreached (fun b => execute b config strict sql) hreached]
    exact hreach
  | ok opened =>
    obtain ⟨b, connection⟩ := opened
    obtain ⟨target, rfl⟩ := exists_backend hreached
    have hdetect' : Command.detect (reach server d s).state.gate.space sql = some enabled := by
      rw [reach_space]
      exact hdetect
    have hworked := keeps_execute hkeeps hdetect' target config strict connection hreach
    obtain ⟨hfailed, hdone⟩ : _ ∧ _ :=
      onConnection_outcome (fun b => execute b config strict sql) hreached
    cases hvalue : (execute (Links.backend server target) config strict sql connection
      (reach server d s).state).value with
    | error e =>
      rw [(hfailed e hvalue).2]
      exact hworked
    | ok output =>
      have hspace :=
        execute_space (Links.backend server target) config strict connection hdetect'
      rw [(hdone output hvalue).2]
      exact keeps_callConnection hkeeps (hspace.symm ▸ hdetect') target connection
        (fun _ hsql => by cases hsql) hworked

end

/-! ## The task -/

/-- No call that a task makes of a driver carries the command that it is given. -/
theorem not_called_of_detect {config : Config} (strict : Bool) {sql : String} {d : Destination}
    {s : Work S} {enabled : Bool} (h : Command.detect s.gate.space sql = some enabled)
    {id : ConnectionId} {origin : Origin} {request : Request}
    (he : .called id origin request ∈
      (onConnection server d (fun b => execute b config strict sql) s).events) :
    request.sql? ≠ some sql := by
  -- A call that is no command does not carry the text, which is one.
  have hforeign {request : Request}
      (hprobe : request.sql?.bind (Command.detect s.gate.space) = none) :
      request.sql? ≠ some sql := by
    intro hsql
    rw [hsql, Option.bind_some, h] at hprobe
    cases hprobe
  cases hreached : (reach server d s).value with
  | error failure =>
    rw [onConnection_unreached (fun b => execute b config strict sql) hreached] at he
    exact hforeign (detect_probe s.gate.space (probes_reach server d s _ he).2)
  | ok opened =>
    obtain ⟨b, connection⟩ := opened
    have hspace : (reach server d s).state.gate.space = s.gate.space := reach_space server d s
    obtain ⟨honly, -, -⟩ : _ ∧ _ ∧ _ :=
      onConnection_reached (fun b => execute b config strict sql) hreached
    obtain ⟨-, -, hexecuted⟩ := execute_command b config strict connection (hspace.symm ▸ h)
    rcases honly _ he with hwork | hprobe | hclose
    · rcases hexecuted _ hwork with hprobe | hprepared
      · exact hforeign (detect_probe s.gate.space hprobe.2)
      · rcases mem_prepare_events b config strict connection hprepared with hprobe | ⟨hnone, hcall⟩
        · exact hforeign (detect_probe s.gate.space hprobe.2)
        · -- What is sent here is not recognised, so it is another text.
          cases hcall
          intro hsame
          rw [hspace, show strictCommand config = sql from Option.some.inj hsame, h] at hnone
          cases hnone
    · exact hforeign (detect_probe s.gate.space hprobe.2)
    · cases hclose
      exact hforeign rfl

/-- Scripted servers see a statement only by running it. -/
theorem keepsUnless_unseen (sql : String) :
    ScriptedServers.server.KeepsUnless sql fun s => ∀ host, .statement host sql ∉ s.seen where
  login s id l hs := by
    show ∀ host, .statement host sql ∉ (s.login id l).1.seen
    rw [ScriptedServers.login]
    split
    · exact hs
    · dsimp only
      split <;> simpa using hs
  run s id other hother hs := by
    show ∀ host, .statement host sql ∉ (s.run id other).1.seen
    rw [ScriptedServers.run]
    split
    · exact hs
    · have hseen (found host : String) :
          .statement host sql ∉ Postgres.Seen.statement found other :: s.seen := by
        simpa [hother.symm] using hs host
      dsimp only
      split <;> exact hseen _
  ping s id hs := hs
  logout s id hs := hs

end Cli

end ClusterGate
