import ClusterGate.Proofs.Contacts
import ClusterGate.Proofs.Transaction

/-!
# Refused statements in a transaction block

A statement that the strict-writer rule refuses is not sent. Before it is refused the server may be
asked whether it forwards writes, though, on the caller's own connection and so in the transaction
block that the caller has begun there. A server that aborts a block when a statement in it fails
(`Postgres.Server.Blocks`) makes a difference then: where it rejects the question the block is
aborted, and the connection is of no use until the caller ends it. In all other cases a refused call
leaves the block as it was (`Site.refusal_in_block`).
-/

namespace ClusterGate

/-! ## Transaction blocks -/

namespace Postgres

/-- Whether a session is in a transaction block. -/
inductive BlockStatus
  | none
  | running
  | aborted
  deriving DecidableEq, Repr

/-- The rule for blocks. A statement that fails aborts the block that is running, unless it is one
that ends blocks, and from then on every statement fails until the block is ended. One that fails
outside of a block begins none. -/
structure Server.Blocks {S : Type} (server : Server S) (status : S → ConnectionId → BlockStatus)
    (ends : String → Prop) : Prop where
  aborts : ∀ {s id sql m}, status s id = .running → ¬ends sql →
    (server.run s id sql).2 = .error m → status (server.run s id sql).1 id = .aborted
  stuck : ∀ {s id sql}, status s id = .aborted → ¬ends sql →
    (∃ m, (server.run s id sql).2 = .error m) ∧ status (server.run s id sql).1 id = .aborted
  outside : ∀ {s id sql m}, status s id = .none → (server.run s id sql).2 = .error m →
    status (server.run s id sql).1 id = .none

/-- The question for write forwarding is a query like any other. It ends no block, and begins or
ends none when it is answered. Where the status of the session is the same after it as before, so
are the answers to what comes next. Nothing is said of any other statement here. -/
structure Server.Inquires {S : Type} (server : Server S) (status : S → ConnectionId → BlockStatus)
    (ends : String → Prop) : Prop where
  asks : ¬ends forwardingQuery
  shows : ∀ {s id reply}, (server.run s id forwardingQuery).2 = .ok reply →
    status (server.run s id forwardingQuery).1 id = status s id
  forgets : ∀ {s id}, status (server.run s id forwardingQuery).1 id = status s id →
    ∀ sql, (server.run (server.run s id forwardingQuery).1 id sql).2 = (server.run s id sql).2

namespace Line

variable {S : Type} (server : Server S) (id : ConnectionId)

/-- A statement goes to the server if the connection is open, and leaves the connection alone. -/
theorem send_state (sql : String) (line : Line S) :
    (send server id sql line).state =
      ⟨if line.link.connected then (server.run line.server id sql).1 else line.server,
        line.link⟩ := by
  by_cases hopen : line.link.connected = true
  · simp [send, hopen]
  · simp [send, hopen]

/-- What a statement answers is read off what sending it brings back. -/
theorem call_statement_value {request : Request} {sql : String} (hsql : request.sql? = some sql) :
    ∃ reading : Except DriverError Reply → Except DriverError request.Value,
      (∀ e, reading (.error e) = .error e) ∧
        ∀ line : Line S, (call server id request line).value =
          reading (send server id sql line).value := by
  cases request with
  | execute text =>
    cases hsql
    exact ⟨fun answer => answer.map fun _ => returnsRows sql, fun e => rfl, fun line => rfl⟩
  | executeQuery text =>
    cases hsql
    refine ⟨fun answer => answer.map (·.result), fun e => rfl, fun line => ?_⟩
    cases hsent : (send server id sql line).value <;> simp [call, fetch, hsent, Except.map]
  | executeUpdate text =>
    cases hsql
    exact ⟨fun answer => (answer.map (·.affected)).map fun n => (min n updateBound : Nat),
      fun e => rfl, fun line => rfl⟩
  | executeLargeUpdate text =>
    cases hsql
    exact ⟨fun answer => (answer.map (·.affected)).map fun n => (min n largeUpdateBound : Nat),
      fun e => rfl, fun line => rfl⟩
  | _ => cases hsql

end Line

namespace Links

variable {S : Type} (server : Server S)

/-- The connection was opened, and not closed since. -/
def isOpen (w : Links S) (id : ConnectionId) : Bool := (w.links.get? id).any (·.connected)

/-- The server rejects the question for write forwarding. -/
def rejects (w : Links S) (id : ConnectionId) : Prop :=
  w.isOpen id = true ∧ ∃ m, (server.run w.server id forwardingQuery).2 = .error m

/-- A query goes to the server if the connection is open, and leaves the connections alone. -/
theorem call_query (w : Links S) (id : ConnectionId) (sql : String) :
    let next := (w.call server id (.executeQuery sql)).1
    (∀ other, next.links.get? other = w.links.get? other) ∧
      next.server = if w.isOpen id then (server.run w.server id sql).1 else w.server := by
  intro next
  cases hlink : w.links.get? id with
  | none =>
    have hnext : next = w := by simp [next, call, hlink]
    rw [hnext]
    exact ⟨fun _ => rfl, by simp [isOpen, hlink]⟩
  | some link =>
    have hstate : (Line.call server id (.executeQuery sql) ⟨w.server, link⟩).state = _ :=
      (Line.call_statement_state server id rfl _).trans (Line.send_state server id sql _)
    have hnext : next = { w with
        server := if link.connected then (server.run w.server id sql).1 else w.server
        links := w.links.insert id link } := by
      simp [next, call, hlink, hstate]
    rw [hnext]
    refine ⟨fun other => ?_, by simp [isOpen, hlink]⟩
    rw [Dict.get?_insert]
    split
    · next heq => rw [heq, hlink]
    · rfl

section
variable {server} {w w' : Links S} {id : ConnectionId} {request : Request} {sql : String}
  (hsql : request.sql? = some sql)
include hsql

/-- What a statement answers depends on its connection and on what the server answers. -/
theorem call_statement_congr (hlink : w'.links.get? id = w.links.get? id)
    (hanswer : (server.run w'.server id sql).2 = (server.run w.server id sql).2) :
    (w'.call server id request).2.result = (w.call server id request).2.result := by
  obtain ⟨reading, -, hvalue⟩ := Line.call_statement_value server id hsql
  rw [call, call, hlink]
  cases w.links.get? id with
  | none => rfl
  | some link =>
    have hsent : (Line.send server id sql ⟨w'.server, link⟩).value =
        (Line.send server id sql ⟨w.server, link⟩).value := by
      by_cases hopen : link.connected = true
      · simp [Line.send, hopen, hanswer]
      · simp [Line.send, hopen]
    show (Line.call server id request _).value = (Line.call server id request _).value
    rw [hvalue, hvalue, hsent]

/-- What the server rejects fails. -/
theorem call_statement_fails {m : String} (hanswer : (server.run w.server id sql).2 = .error m) :
    ∃ e, (w.call server id request).2.result = .error e := by
  obtain ⟨reading, hfails, hvalue⟩ := Line.call_statement_value server id hsql
  rw [call]
  cases w.links.get? id with
  | none => exact ⟨.closed, rfl⟩
  | some link =>
    show ∃ e, (Line.call server id request ⟨w.server, link⟩).value = .error e
    rw [hvalue]
    by_cases hopen : link.connected = true
    · exact ⟨.queryFailed m, by simp [Line.send, hopen, hanswer, hfails, Except.mapError]⟩
    · exact ⟨.closed, by simp [Line.send, hopen, hfails]⟩

end

/-- Asking about write forwarding aborts the block that is running, if the server rejects the
question there. Otherwise the status of the block stays, and the next statement is answered as if
nothing had been asked. -/
theorem status_after_question {status : S → ConnectionId → BlockStatus} {ends : String → Prop}
    (hblocks : server.Blocks status ends) (hinquires : server.Inquires status ends) (w : Links S)
    (id : ConnectionId) :
    let next := (w.call server id (.executeQuery forwardingQuery)).1
    (w.rejects server id ∧ status w.server id = .running → status next.server id = .aborted) ∧
      (¬(w.rejects server id ∧ status w.server id = .running) →
        status next.server id = status w.server id ∧
          ∀ sql, (server.run next.server id sql).2 = (server.run w.server id sql).2) := by
  intro next
  obtain ⟨-, hserver⟩ := call_query server w id forwardingQuery
  constructor
  · rintro ⟨⟨hopen, m, hrejected⟩, hrunning⟩
    have hasked : next.server = (server.run w.server id forwardingQuery).1 := by
      rw [hserver, if_pos hopen]
    rw [hasked]
    exact hblocks.aborts hrunning hinquires.asks hrejected
  · intro hharmless
    by_cases hopen : w.isOpen id = true
    · have hasked : next.server = (server.run w.server id forwardingQuery).1 := by
        rw [hserver, if_pos hopen]
      have hkept : status (server.run w.server id forwardingQuery).1 id = status w.server id := by
        cases hanswer : (server.run w.server id forwardingQuery).2 with
        | ok reply => exact hinquires.shows hanswer
        | error m =>
          -- Outside a block there is nothing to abort, and an aborted one stays so.
          cases hstatus : status w.server id with
          | none => exact hblocks.outside hstatus hanswer
          | running => exact absurd ⟨⟨hopen, m, hanswer⟩, hstatus⟩ hharmless
          | aborted => exact (hblocks.stuck hstatus hinquires.asks).2
      rw [hasked]
      exact ⟨hkept, hinquires.forgets hkept⟩
    · have hunasked : next.server = w.server := by rw [hserver, if_neg hopen]
      rw [hunasked]
      exact ⟨rfl, fun _ => rfl⟩

end Links

end Postgres

/-! ## Refused calls -/

/-- A refresh leaves the world behind as its question does. Without a question the world is
untouched. -/
theorem Watch.refresh_world {W : Type} (b : Backend W) (id : ConnectionId) (host : String)
    (s : Watch W) :
    (refresh b id host s).state.world =
      if asksForwarding b host s then (b.call s.world id (.executeQuery forwardingQuery)).1
      else s.world := by
  rw [refresh_state]
  split
  · exact congrArg Watch.world (probeForwarding_state b id s)
  · rfl

namespace Site

section
variable {W : Type} {b : Backend W} {request : Request} {s : Site W} {violation : Violation}

/-- Of a call that is refused nothing is left but what bringing the record of the host up to date
has done. -/
theorem callFor_refused {target : Option Connection} {id : ConnectionId}
    (h : (callFor b target id request s).value = .error (.refused violation)) :
    ∃ connection, target = some connection ∧
      let refreshed := Watch.refresh b connection.id connection.host.host s.watch
      let call := callFor b target id request s
      call.state.world = refreshed.state.world ∧
        Event.contacts call.events = Event.contacts refreshed.events := by
  by_cases hcommand : target.isSome ∧ (request.mode? s.gate.space).isSome
  · -- A command is acknowledged.
    obtain ⟨connection, rfl⟩ := Option.isSome_iff_exists.mp hcommand.1
    obtain ⟨enabled, hmode⟩ := Option.isSome_iff_exists.mp hcommand.2
    obtain ⟨⟨acknowledgement, -, hvalue⟩, -⟩ := callFor_command b connection id request s hmode
    rw [hvalue] at h
    cases h
  · obtain ⟨hvalue, hstate, hcontacts⟩ :=
      callFor_pass b target id request s (passes_of_not_command hcommand)
    rw [hvalue] at h
    cases hchecked : (enforceOn b target request.method request.sql? s).value with
    | ok _ =>
      -- What passes the check is up to the driver, which refuses nothing.
      rw [(proceed_allowed id hchecked).1] at h
      cases hanswer : (Watch.call b .caller id request
        (enforceOn b target request.method request.sql? s).state.watch).value <;>
        simp [hanswer, Except.mapError] at h
    | error reason =>
      rw [proceed_refused id hchecked] at hstate hcontacts
      cases target with
      | none => cases hchecked
      | some connection =>
        by_cases hstrict : request.method.runsStatement = true ∧
            s.gate.isStrict connection.id = true
        · obtain ⟨hended, hasked⟩ :=
            enforceOn_checked (b := b) hstrict.1 hstrict.2 request.sql?
          refine ⟨connection, rfl, ?_, hcontacts.trans hasked⟩
          rw [hstate, hended]
          rfl
        · rw [enforceOn_unchecked hstrict] at hchecked
          cases hchecked

/-- A refused call asks about write forwarding, on the connection it is made on, or it leaves the
world as it was. -/
theorem perform_refused {callee : Target}
    (h : (perform b (.call callee request) s).value =
      .answered request (.error (.refused violation))) :
    let step := perform b (.call callee request) s
    (Event.contacts step.events = [] ∧ step.state.world = s.world) ∨
      Event.contacts step.events =
          [.called callee.owner .probe (.executeQuery forwardingQuery)] ∧
        step.state.world = (b.call s.world callee.owner (.executeQuery forwardingQuery)).1 := by
  -- A call on a handle that was given up is not refused but not made.
  have hreached : callee.reaches s.gate = true := by
    cases callee with
    | statement statement => rfl
    | connection id =>
      cases hheld : s.gate.connection? id with
      | some connection => rw [Target.reaches, hheld]; rfl
      | none =>
        rw [perform_call_connection_gone b hheld] at h
        cases h
  have hcall := perform_call_reached b hreached request
  rw [hcall] at h
  have hvalue : (callFor b (s.gate.connection? callee.owner) callee.owner request s).value =
      .error (.refused violation) := by
    injection h
  obtain ⟨connection, hheld, hworld, hcontacts⟩ := callFor_refused hvalue
  have hid : connection.id = callee.owner := connection?_id hheld
  rw [Watch.refresh_world, hid] at hworld
  rw [Watch.contacts_refresh, hid] at hcontacts
  rw [hcall]
  cases hasks : Watch.asksForwarding b connection.host.host s.watch with
  | false =>
    rw [hasks] at hworld hcontacts
    exact .inl ⟨hcontacts, hworld⟩
  | true =>
    rw [hasks] at hworld hcontacts
    exact .inr ⟨hcontacts, hworld⟩

end

/-! ## Refused calls in a block -/

/-- Whatever state a gate and its servers are in: a refused call sends at most the question for
write forwarding, and leaves connections and their modes alone. It leaves the block of its session
as it was too, and the next statement is answered as if the call had not been made, but in one case.
When the question is asked in a running block and rejected, the block is aborted, and every
statement that does not end it fails from then on. -/
theorem refusal_in_block {S : Type} {server : Postgres.Server S}
    {status : S → ConnectionId → Postgres.BlockStatus} {ends : String → Prop}
    (hblocks : server.Blocks status ends) (hinquires : server.Inquires status ends)
    (driver : Postgres.Target) (s : Site (Postgres.Links S)) (callee : Target) (request : Request)
    {violation : Violation}
    (hrefused : (perform (Postgres.Links.backend server driver) (.call callee request) s).value =
      .answered request (.error (.refused violation))) :
    let step := perform (Postgres.Links.backend server driver) (.call callee request) s
    let id := callee.owner
    let question := Event.called id .probe (.executeQuery forwardingQuery)
    let before := s.world
    let after := step.state.world
    let disturbed := Event.contacts step.events = [question] ∧ before.rejects server id ∧
      status before.server id = .running
    (Event.contacts step.events = [] ∧ after = before ∨ Event.contacts step.events = [question]) ∧
      (∀ other, after.links.get? other = before.links.get? other) ∧
      (¬disturbed → status after.server id = status before.server id ∧
        ∀ next sql, next.sql? = some sql →
          (after.call server id next).2.result = (before.call server id next).2.result) ∧
      (disturbed → status after.server id = .aborted ∧
        ∀ next sql, next.sql? = some sql → ¬ends sql →
          ∃ e, (after.call server id next).2.result = .error e) := by
  intro step id question before after disturbed
  rcases perform_refused hrefused with ⟨hcontacts, hworld⟩ | ⟨hcontacts, hworld⟩
  · -- Nothing is asked, so nothing has happened in the world.
    have hsame : after = before := hworld
    rw [hsame]
    refine ⟨.inl ⟨hcontacts, rfl⟩, fun _ => rfl, fun _ => ⟨rfl, fun _ _ _ => rfl⟩, ?_⟩
    rintro ⟨hasked, -⟩
    rw [hasked] at hcontacts
    cases hcontacts
  · have hasked : after = (before.call server id (.executeQuery forwardingQuery)).1 := hworld
    -- All that has happened in the world is the answer to the question.
    obtain ⟨hlinks, -⟩ := Postgres.Links.call_query server before id forwardingQuery
    obtain ⟨haborted, hkept⟩ :=
      Postgres.Links.status_after_question server hblocks hinquires before id
    rw [← hasked] at hlinks haborted hkept
    refine ⟨.inr hcontacts, hlinks, ?_, ?_⟩
    · intro hharmless
      obtain ⟨hstatus, hanswers⟩ := hkept fun hboth => hharmless ⟨hcontacts, hboth⟩
      refine ⟨hstatus, fun next sql hsql => ?_⟩
      exact Postgres.Links.call_statement_congr hsql (hlinks id) (hanswers sql)
    · rintro ⟨-, hboth⟩
      have hstatus := haborted hboth
      refine ⟨hstatus, fun next sql hsql hgoes => ?_⟩
      obtain ⟨m, hfails⟩ := (hblocks.stuck hstatus hgoes).1
      exact Postgres.Links.call_statement_fails hsql hfails

/-- A server with a single session, which does not know the setting for write forwarding. -/
def unforwardingServer : Postgres.Server Postgres.BlockStatus where
  login _ _ _ := (.none, .ok ())
  run status _ sql :=
    if sql = "COMMIT" ∨ sql = "ROLLBACK" then (.none, .ok ⟨[], [], 0⟩)
    else if status = .aborted then (.aborted, .error "current transaction is aborted")
    else if sql = "BEGIN" then (.running, .ok ⟨[], [], 0⟩)
    else if sql = forwardingQuery then
      (if status = .running then .aborted else .none,
        .error "unrecognized configuration parameter")
    else (status, .ok ⟨[], [], 1⟩)
  ping status _ := (status, true)
  logout _ _ := (.none, .ok ())

/-- It follows the rule for blocks. -/
theorem blocks_unforwardingServer :
    unforwardingServer.Blocks (fun status _ => status)
      (fun sql => sql = "COMMIT" ∨ sql = "ROLLBACK") where
  aborts {status id sql m} hrunning hgoes hfails := by
    subst hrunning
    simp only [unforwardingServer] at hfails ⊢
    split_ifs at hfails ⊢ <;> simp_all
  stuck {status id sql} haborted hgoes := by
    subst haborted
    simp [unforwardingServer, hgoes]
  outside {status id sql m} hnone hfails := by
    subst hnone
    simp only [unforwardingServer] at hfails ⊢
    split_ifs at hfails ⊢ <;> simp_all

/-- The question aborts the block that is running, and changes nothing else. -/
theorem inquires_unforwardingServer :
    unforwardingServer.Inquires (fun status _ => status)
      (fun sql => sql = "COMMIT" ∨ sql = "ROLLBACK") where
  asks := by decide
  shows {status id reply} hanswer := by
    cases status <;> cases hanswer
  forgets {status id} hkept sql := by
    have hsame : (unforwardingServer.run status id forwardingQuery).1 = status := hkept
    rw [hsame]

/-- A connection in strict-writer mode to a server that has become a reader. -/
def demoted : List (Operation (Postgres.Links Postgres.BlockStatus)) :=
  [.connect "jdbc" ⟨"db", 5432, .writer⟩ ∅, .announce [⟨"db", 5432, .reader⟩],
    .call (.connection ⟨0⟩) (.execute "SET SESSION ns.strict_writer = true")]

/-- In auto-commit mode the refused call leaves nothing behind, though the server was asked. -/
theorem refusal_in_block_auto :
    let b := Postgres.Links.backend unforwardingServer ⟨none, none, none⟩
    let s := after b ⟨.plain, .start .none⟩ demoted
    let insert := Request.executeUpdate "INSERT INTO t VALUES (1)"
    let step := perform b (.call (.connection ⟨0⟩) insert) s
    Event.contacts step.events = [.called ⟨0⟩ .probe (.executeQuery forwardingQuery)] ∧
      step.state.world.server = .none ∧
      (step.state.world.call unforwardingServer ⟨0⟩ insert).2.result = .ok (1 : Int) := by
  have hrun :
      let b := Postgres.Links.backend unforwardingServer ⟨none, none, none⟩
      let s := after b ⟨.plain, .start .none⟩ demoted
      let insert := Request.executeUpdate "INSERT INTO t VALUES (1)"
      s.gate.connection? ⟨0⟩ = some ⟨⟨0⟩, ⟨"db", 5432, .writer⟩, .unknown⟩ ∧
        (callFor b (some ⟨⟨0⟩, ⟨"db", 5432, .writer⟩, .unknown⟩) ⟨0⟩ insert s).value =
          .error (.refused ⟨"executeUpdate", "db", some "INSERT INTO t VALUES (1)",
            .readerWithoutForwarding⟩) ∧
        Event.contacts (perform b (.call (.connection ⟨0⟩) insert) s).events =
          [.called ⟨0⟩ .probe (.executeQuery forwardingQuery)] ∧
        s.world.server = .none ∧
        (s.world.call unforwardingServer ⟨0⟩ insert).2.result = .ok (1 : Int) := by
    decide +kernel
  -- The rest holds of every site of which this is known.
  revert hrun
  dsimp only
  generalize after _ (Site.mk Gate.plain _) demoted = s
  rintro ⟨hheld, hvalue, hasked, houtside, hanswer⟩
  have howner : s.gate.connection? (Target.connection ⟨0⟩).owner = some _ := hheld
  have hrefused := (congrArg Step.value (perform_call_held _ howner _)).trans
    (congrArg (Outcome.answered _) hvalue)
  obtain ⟨-, -, hkept, -⟩ := refusal_in_block blocks_unforwardingServer inquires_unforwardingServer
    ⟨none, none, none⟩ s (.connection ⟨0⟩) (.executeUpdate "INSERT INTO t VALUES (1)") hrefused
  simp only [Target.owner, houtside] at hkept
  obtain ⟨hstatus, hnext⟩ := hkept (by simp)
  refine ⟨hasked, hstatus, ?_⟩
  rw [hnext (.executeUpdate "INSERT INTO t VALUES (1)") "INSERT INTO t VALUES (1)" rfl]
  exact hanswer

/-- In manual mode it aborts the transaction of the caller. What is allowed next fails, and would
have succeeded without the refused call. -/
theorem refusal_aborts_block :
    let b := Postgres.Links.backend unforwardingServer ⟨none, none, none⟩
    let s := after b ⟨.plain, .start .none⟩
      (demoted ++ [.call (.connection ⟨0⟩) (.setAutoCommit false)])
    let insert := Request.executeUpdate "INSERT INTO t VALUES (1)"
    let lax := Request.execute "SET SESSION ns.strict_writer = false"
    let call (request : Request) (s : Site (Postgres.Links Postgres.BlockStatus)) :=
      callFor b (s.gate.connection? ⟨0⟩) ⟨0⟩ request s
    let refused := call insert s
    refused.value = .error (.refused
        ⟨"executeUpdate", "db", some "INSERT INTO t VALUES (1)", .readerWithoutForwarding⟩) ∧
      s.world.server = .running ∧ refused.state.world.server = .aborted ∧
      (call insert (call lax s).state).value = .ok (1 : Int) ∧
      (call insert (call lax refused.state).state).value =
        .error (.driver (.queryFailed "current transaction is aborted")) := by
  decide +kernel

end Site

end ClusterGate
