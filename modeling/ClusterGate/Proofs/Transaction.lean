import ClusterGate.Postgres.Link
import Mathlib.Data.List.Induction

/-!
# Transactions in manual mode

With auto-commit off a connection keeps a transaction open: it is begun when auto-commit is switched
off, and again by every commit and rollback. To say so, a server is made to write down what is sent
to it and whether it was acknowledged (`Server.recorded`), which changes nothing else
(`Line.call_recorded`).

Whatever the server answers, a connection in auto-commit mode has no transaction open. One in manual
mode has one open if the last call that got a control statement acknowledged succeeded
(`Line.manual_mode_open`). Such a call fails only as a commit or rollback whose statement is
acknowledged and whose `BEGIN` is not: the connection stays in manual mode, with nothing begun.
-/

namespace ClusterGate

/-! ## Actions that follow others -/

/-- The action does the same as another one on a part of its state. -/
def Act.Follows {ε σ τ α : Type} (part : σ → τ) (x : Act ε σ α) (y : Act ε τ α) : Prop :=
  ∀ s, (x s).value = (y (part s)).value ∧ (x s).events = (y (part s)).events ∧
    part (x s).state = (y (part s)).state

namespace Act.Follows

variable {ε σ τ α β : Type} {part : σ → τ}

theorem pure (a : α) : Follows part (Pure.pure a : Act ε σ α) (Pure.pure a) :=
  fun _ => ⟨rfl, rfl, rfl⟩

theorem emit (events : List ε) : Follows part (Act.emit events) (Act.emit events) :=
  fun _ => ⟨rfl, rfl, rfl⟩

theorem read {f : σ → α} {g : τ → α} (h : ∀ s, f s = g (part s)) :
    Follows part (Act.read f : Act ε σ α) (Act.read g) :=
  fun s => ⟨h s, rfl, rfl⟩

theorem update {f : σ → σ} {g : τ → τ} (h : ∀ s, part (f s) = g (part s)) :
    Follows part (Act.update f : Act ε σ Unit) (Act.update g) :=
  fun s => ⟨rfl, rfl, h s⟩

theorem bind {x : Act ε σ α} {y : Act ε τ α} (hx : Follows part x y) {f : α → Act ε σ β}
    {g : α → Act ε τ β} (hf : ∀ a, Follows part (f a) (g a)) :
    Follows part (x >>= f) (y >>= g) := by
  intro s
  obtain ⟨hvalue, hevents, hstate⟩ := hx s
  obtain ⟨hvalue', hevents', hstate'⟩ := hf (x s).value (x s).state
  rw [hstate, hvalue] at hvalue' hevents' hstate'
  refine ⟨?_, ?_, ?_⟩
  · rw [Act.bind_value, Act.bind_value, hvalue, hvalue']
  · rw [Act.bind_events, Act.bind_events, hevents, hvalue, hevents']
  · rw [Act.bind_state, Act.bind_state, hvalue, hstate']

end Act.Follows

namespace Postgres

/-! ## Servers that write down what is sent -/

/-- A statement that was sent, and whether the server acknowledged it. -/
structure Exchange where
  sql : String
  acknowledged : Bool
  deriving DecidableEq, Repr

/-- The server, writing down what is sent to it. -/
def Server.recorded {S : Type} (server : Server S) : Server (S × List Exchange) where
  login s id l := let (next, answer) := server.login s.1 id l; ((next, s.2), answer)
  run s id sql :=
    let (next, answer) := server.run s.1 id sql
    ((next, s.2 ++ [⟨sql, answer.isOk⟩]), answer)
  ping s id := let (next, answer) := server.ping s.1 id; ((next, s.2), answer)
  logout s id := let (next, answer) := server.logout s.1 id; ((next, s.2), answer)

namespace Line

variable {S : Type} (server : Server S) (id : ConnectionId)

/-- The connection without what was written down. -/
def plain (line : Line (S × List Exchange)) : Line S := ⟨line.server.1, line.link⟩

/-- Writing down what is sent changes nothing else. -/
theorem send_recorded (sql : String) :
    (send server.recorded id sql).Follows plain (send server id sql) := by
  intro line
  by_cases hopen : line.link.connected = true
  · simp [send, plain, Server.recorded, hopen]
  · simp [send, plain, hopen]

theorem run_recorded (sql : String) :
    (run server.recorded id sql).Follows plain (run server id sql) :=
  .bind (send_recorded server id sql) fun _ => .pure _

/-- Writing down what is sent changes nothing else. -/
theorem call_recorded (request : Request) :
    (call server.recorded id request).Follows plain (call server id request) := by
  -- Commit and rollback differ in their statement only.
  have hend (statement : String) : (endTransaction server.recorded id statement).Follows plain
      (endTransaction server id statement) := by
    unfold endTransaction
    refine .bind (.read ?_) fun link => ?_
    · intro line
      rfl
    · split
      · exact .bind (.emit _) fun _ => .pure _
      · refine .bind (run_recorded server id statement) fun ended => ?_
        cases ended with
        | error e => exact .pure _
        | ok _ => exact .bind (run_recorded server id "BEGIN") fun _ => .pure _
  cases request with
  | execute sql => exact .bind (send_recorded server id sql) fun _ => .pure _
  | executeQuery sql =>
    refine .bind (send_recorded server id sql) fun answer => ?_
    cases answer with
    | error e => exact .pure _
    | ok reply => exact .bind (.emit _) fun _ => .pure _
  | executeUpdate sql => exact .bind (run_recorded server id sql) fun _ => .pure _
  | executeLargeUpdate sql => exact .bind (run_recorded server id sql) fun _ => .pure _
  | commit => exact hend "COMMIT"
  | rollback => exact hend "ROLLBACK"
  | setAutoCommit enabled =>
    show (setAutoCommit _ _ _).Follows plain (setAutoCommit _ _ _)
    unfold setAutoCommit
    refine .bind (.read ?_) fun current => ?_
    · intro line
      rfl
    · split
      · exact .pure _
      · refine .bind (run_recorded server id _) fun switched => ?_
        cases switched with
        | error e => exact .pure _
        | ok _ =>
          refine .bind (.update ?_) fun _ => .pure _
          -- These two do not go through `send`, so they are compared line by line.
          intro line
          rfl
  | isValid =>
    intro line
    by_cases hopen : line.link.connected = true
    · simp [call, isValid, plain, Server.recorded, hopen]
    · simp [call, isValid, plain, hopen]
  | close =>
    intro line
    by_cases hopen : line.link.connected = true
    · simp [call, close, plain, Server.recorded, hopen]
    · simp [call, close, plain, hopen]

end Line

/-! ## Control statements -/

def controlStatements : List String := ["BEGIN", "COMMIT", "ROLLBACK"]

/-- What is observed of a call: whether it succeeded, and what was exchanged for it. -/
structure Observation where
  succeeded : Bool
  exchanges : List Exchange
  deriving DecidableEq, Repr

/-- The control statements of a call that the server acknowledged. -/
def Observation.controls (o : Observation) : List String :=
  (o.exchanges.filter fun e => e.acknowledged && controlStatements.contains e.sql).map (·.sql)

/-- The last control statement that the server acknowledged. -/
def lastControl? (history : List Observation) : Option String :=
  (history.flatMap (·.controls)).getLast?

/-- The last call with a control statement that the server acknowledged. -/
def lastControlCall? (history : List Observation) : Option Observation :=
  (history.filter (!·.controls.isEmpty)).getLast?

/-- A call without control statements counts for nothing. -/
theorem lastControl?_concat_none (history : List Observation) {o : Observation}
    (h : o.controls = []) :
    lastControl? (history ++ [o]) = lastControl? history ∧
      lastControlCall? (history ++ [o]) = lastControlCall? history := by
  simp [lastControl?, lastControlCall?, h]

/-- A call with control statements is the last one. -/
theorem lastControl?_concat_some (history : List Observation) {o : Observation} {control : String}
    (h : o.controls.getLast? = some control) :
    lastControl? (history ++ [o]) = some control ∧
      lastControlCall? (history ++ [o]) = some o := by
  have hne : o.controls ≠ [] := by
    rintro hnil
    rw [hnil] at h
    cases h
  constructor
  · rw [lastControl?, List.flatMap_append, List.getLast?_append]
    simp [h]
  · rw [lastControlCall?, List.filter_append, List.getLast?_append]
    simp [hne]

namespace Line

variable {S : Type} (server : Server S) (id : ConnectionId)

def observe (request : Request) (line : Line S) : Observation :=
  let step := call server.recorded id request ⟨(line.server, []), line.link⟩
  ⟨step.value.isOk, step.state.server.2⟩

def after (line : Line S) (requests : List Request) : Line S :=
  requests.foldl (fun line request => (call server id request line).state) line

/-- Some calls in order, as they are observed. -/
def history (line : Line S) : List Request → List Observation
  | [] => []
  | request :: rest =>
    observe server id request line :: history (call server id request line).state rest

theorem after_concat (line : Line S) (requests : List Request) (request : Request) :
    after server id line (requests ++ [request]) =
      (call server id request (after server id line requests)).state := by
  simp [after]

theorem history_concat (line : Line S) (requests : List Request) (request : Request) :
    history server id line (requests ++ [request]) =
      history server id line requests ++ [observe server id request (after server id line requests)]
      := by
  induction requests generalizing line with
  | nil => rfl
  | cons first rest ih =>
    rw [List.cons_append, history, ih, history]
    rfl

/-! ## Calls on an open connection -/

/-- A statement that is sent is written down, and leaves the mode alone. -/
theorem send_open {line : Line (S × List Exchange)} (hopen : line.link.connected = true)
    (sql : String) :
    let sent := send server.recorded id sql line
    sent.state.server.2 = line.server.2 ++ [⟨sql, sent.value.isOk⟩] ∧
      sent.state.link = line.link := by
  cases hanswer : (server.run line.server.1 id sql).2 <;>
    simp [send, Server.recorded, hopen, hanswer, Except.mapError, Except.isOk, Except.toBool]

theorem run_open {line : Line (S × List Exchange)} (hopen : line.link.connected = true)
    (sql : String) :
    let ran := run server.recorded id sql line
    ran.state.server.2 = line.server.2 ++ [⟨sql, ran.value.isOk⟩] ∧ ran.state.link = line.link := by
  intro ran
  obtain ⟨hlog, hlink⟩ : _ ∧ _ := send_open server id hopen sql
  have hok : ran.value.isOk = (send server.recorded id sql line).value.isOk := by
    cases hsent : (send server.recorded id sql line).value <;>
      simp [ran, run, hsent, Except.map, Except.isOk, Except.toBool]
  rw [hok]
  exact ⟨hlog, hlink⟩

/-- A statement of the caller is sent as it is, and that is all. -/
theorem call_statement_state {request : Request} {sql : String} (hsql : request.sql? = some sql)
    (line : Line S) :
    (call server id request line).state = (send server id sql line).state := by
  cases request with
  | execute text | executeUpdate text | executeLargeUpdate text =>
    cases hsql
    rfl
  | executeQuery text =>
    cases hsql
    cases hsent : (send server id sql line).value <;> simp [call, fetch, hsent]
  | _ => cases hsql

/-- In manual mode the end of a transaction is sent, and once it is acknowledged the begin of the
next one. -/
theorem endTransaction_manual {line : Line S} (hmanual : line.link.autoCommit = false)
    (statement : String) :
    let ended := run server id statement line
    let begun := run server id "BEGIN" ended.state
    let step := endTransaction server id statement line
    (ended.value.isOk = false → step.value.isOk = false ∧ step.state = ended.state) ∧
      (ended.value.isOk = true →
        step.value.isOk = begun.value.isOk ∧ step.state = begun.state) := by
  intro ended begun step
  cases hended : ended.value with
  | error e =>
    have hvalue : (run server id statement line).value = .error e := hended
    have hstep : step.value = .error e ∧ step.state = ended.state := by
      simp [step, ended, endTransaction, hmanual, hvalue]
    refine ⟨fun _ => ?_, fun hok => (by cases hok)⟩
    rw [hstep.1]
    exact ⟨rfl, hstep.2⟩
  | ok n =>
    have hvalue : (run server id statement line).value = .ok n := hended
    have hstep : step.value = begun.value.map (fun _ => ()) ∧ step.state = begun.state := by
      simp [step, begun, ended, endTransaction, hmanual, hvalue]
    refine ⟨fun hfailed => (by cases hfailed), fun _ => ⟨?_, hstep.2⟩⟩
    rw [hstep.1]
    cases begun.value <;> rfl

/-- While every statement is committed there is no transaction to end. -/
theorem endTransaction_auto {line : Line S} (hauto : line.link.autoCommit = true)
    (statement : String) : (endTransaction server id statement line).state = line := by
  simp [endTransaction, hauto]

/-- Switching to another mode sends one statement, and switches if that is acknowledged. -/
theorem setAutoCommit_switch {line : Line S} {enabled : Bool}
    (hother : line.link.autoCommit ≠ enabled) :
    let ran := run server id (if enabled then "COMMIT" else "BEGIN") line
    let step := setAutoCommit server id enabled line
    (ran.value.isOk = false → step.value.isOk = false ∧ step.state = ran.state) ∧
      (ran.value.isOk = true → step.value.isOk = true ∧ step.state =
        { ran.state with link := { ran.state.link with autoCommit := enabled } }) := by
  intro ran step
  cases hran : ran.value with
  | error e =>
    have hvalue : (run server id (if enabled then "COMMIT" else "BEGIN") line).value =
        .error e := hran
    have hstep : step.value = .error e ∧ step.state = ran.state := by
      simp [step, ran, setAutoCommit, hother, hvalue]
    refine ⟨fun _ => ?_, fun hok => (by cases hok)⟩
    rw [hstep.1]
    exact ⟨rfl, hstep.2⟩
  | ok n =>
    have hvalue : (run server id (if enabled then "COMMIT" else "BEGIN") line).value =
        .ok n := hran
    have hstep : step.value = .ok () ∧ step.state =
        { ran.state with link := { ran.state.link with autoCommit := enabled } } := by
      simp [step, ran, setAutoCommit, hother, hvalue]
    refine ⟨fun hfailed => (by cases hfailed), fun _ => ?_⟩
    rw [hstep.1]
    exact ⟨rfl, hstep.2⟩

end Line

/-! ## What a call does to transactions -/

/-- The ways in which a call on an open connection touches the control statements. -/
inductive ControlStep (before next : Link) (o : Observation) : Prop
  /-- No control statement is acknowledged. -/
  | untouched (controls : o.controls = []) (link : next = before)
  /-- A transaction is begun. -/
  | begun (succeeded : o.succeeded = true) (last : o.controls.getLast? = some "BEGIN")
      (link : next = { before with autoCommit := false })
  /-- The open transaction is committed for good. -/
  | committed (succeeded : o.succeeded = true) (last : o.controls.getLast? = some "COMMIT")
      (link : next = { before with autoCommit := true })
  /-- The open transaction is ended, and none is begun in its place. -/
  | halfway (failed : o.succeeded = false) {control : String}
      (last : o.controls.getLast? = some control) (ended : control ≠ "BEGIN")
      (manual : before.autoCommit = false) (link : next = before)

namespace Line

variable {S : Type} (server : Server S) (id : ConnectionId)

section
variable {server id} {line : Line (S × List Exchange)} (hopen : line.link.connected = true)
  (hempty : line.server.2 = [])
include hopen hempty

/-- In manual mode two statements are sent, and the second one only if the first is acknowledged. -/
theorem controlStep_endTransaction {statement : String}
    (hstatement : statement = "COMMIT" ∨ statement = "ROLLBACK") :
    let step := endTransaction server.recorded id statement line
    ControlStep line.link step.state.link ⟨step.value.isOk, step.state.server.2⟩ := by
  intro step
  cases hauto : line.link.autoCommit with
  | true =>
    have hstate : step.state = line := endTransaction_auto _ id hauto statement
    rw [hstate, hempty]
    exact .untouched rfl rfl
  | false =>
    obtain ⟨hlog, hlink⟩ : _ ∧ _ := run_open server id hopen statement
    obtain ⟨hfailed, hok⟩ : _ ∧ _ := endTransaction_manual server.recorded id hauto statement
    rw [hempty, List.nil_append] at hlog
    cases hended : (run server.recorded id statement line).value.isOk with
    | false =>
      obtain ⟨hvalue, hstate⟩ := hfailed hended
      rw [hstate, hlog, hlink, hended]
      exact .untouched rfl rfl
    | true =>
      obtain ⟨hvalue, hstate⟩ := hok hended
      have hopen' : (run server.recorded id statement line).state.link.connected = true := by
        rw [hlink]
        exact hopen
      obtain ⟨hlog', hlink'⟩ : _ ∧ _ := run_open server id hopen' "BEGIN"
      rw [hvalue, hstate, hlog', hlink', hlog, hlink, hended]
      generalize
        (run server.recorded id "BEGIN" (run server.recorded id statement line).state).value.isOk =
          renewed
      cases renewed with
      | false =>
        -- The transaction is over, and the next one is refused.
        rcases hstatement with rfl | rfl
        · exact .halfway rfl rfl (by decide) hauto rfl
        · exact .halfway rfl rfl (by decide) hauto rfl
      | true =>
        have hmode : line.link = { line.link with autoCommit := false } := by rw [← hauto]
        rcases hstatement with rfl | rfl
        · exact .begun rfl rfl hmode
        · exact .begun rfl rfl hmode

/-- Switching auto-commit on sends `COMMIT`, switching it off sends `BEGIN`, and the flag follows
what is acknowledged. -/
theorem controlStep_setAutoCommit (enabled : Bool) :
    let step := setAutoCommit server.recorded id enabled line
    ControlStep line.link step.state.link ⟨step.value.isOk, step.state.server.2⟩ := by
  intro step
  by_cases hsame : line.link.autoCommit = enabled
  · have hstate : step.state = line := by simp [step, setAutoCommit, hsame]
    rw [hstate, hempty]
    exact .untouched rfl rfl
  · let statement := if enabled then "COMMIT" else "BEGIN"
    obtain ⟨hlog, hlink⟩ : _ ∧ _ := run_open server id hopen statement
    obtain ⟨hfailed, hok⟩ : _ ∧ _ := setAutoCommit_switch server.recorded id hsame
    rw [hempty, List.nil_append] at hlog
    cases hran : (run server.recorded id statement line).value.isOk with
    | false =>
      obtain ⟨hvalue, hstate⟩ := hfailed hran
      rw [hstate, hlog, hlink, hran]
      exact .untouched rfl rfl
    | true =>
      obtain ⟨hvalue, hstate⟩ := hok hran
      rw [hvalue, hstate, hlog, hlink, hran]
      cases enabled with
      | true => exact .committed rfl rfl rfl
      | false => exact .begun rfl rfl rfl

end

/-- What a call on an open connection does with control statements, unless the caller sends some of
its own. -/
theorem controlStep_call {line : Line S} (hopen : line.link.connected = true) {request : Request}
    (hclose : request ≠ .close)
    (hplain : ∀ sql, request.sql? = some sql → sql ∉ controlStatements) :
    ControlStep line.link (call server id request line).state.link
      (observe server id request line) := by
  -- What is observed is what a server writes down that begins with nothing.
  let start : Line (S × List Exchange) := ⟨(line.server, []), line.link⟩
  obtain ⟨-, -, hstate⟩ := call_recorded server id request start
  have hlink : (call server id request line).state.link =
      (call server.recorded id request start).state.link := (congrArg Line.link hstate).symm
  rw [hlink]
  show ControlStep start.link _ ⟨(call server.recorded id request start).value.isOk,
    (call server.recorded id request start).state.server.2⟩
  cases hsql : request.sql? with
  | some sql =>
    have hsent := call_statement_state server.recorded id hsql start
    have hopen' : start.link.connected = true := hopen
    obtain ⟨hlog, hmode⟩ : _ ∧ _ := send_open server id hopen' sql
    have hother : sql ∉ controlStatements := hplain sql hsql
    rw [hsent, hlog, hmode]
    refine .untouched ?_ rfl
    simp [Observation.controls, start, hother]
  | none =>
    cases request with
    | commit => exact controlStep_endTransaction hopen rfl (.inl rfl)
    | rollback => exact controlStep_endTransaction hopen rfl (.inr rfl)
    | setAutoCommit enabled => exact controlStep_setAutoCommit hopen rfl enabled
    | isValid =>
      refine .untouched ?_ ?_
      · simp [Observation.controls, call, isValid, Server.recorded, start, hopen]
      · simp [call, isValid, Server.recorded, start, hopen]
    | close => exact absurd rfl hclose
    | _ => cases hsql

/-! ## Runs of calls -/

/-- What a run leaves behind: outside manual mode no transaction is open, and in manual mode one is
open if the last call with an acknowledged control statement succeeded. -/
structure Settled (link : Link) (history : List Observation) : Prop where
  connected : link.connected = true
  auto : link.autoCommit = true → lastControl? history ≠ some "BEGIN"
  manual : link.autoCommit = false → ∃ o, lastControlCall? history = some o ∧
    (lastControl? history = some "BEGIN" ↔ o.succeeded = true)

/-- What one call preserves. -/
theorem Settled.concat {link next : Link} {history : List Observation} {o : Observation}
    (h : Settled link history) (hstep : ControlStep link next o) :
    Settled next (history ++ [o]) := by
  cases hstep with
  | untouched hcontrols hlink =>
    -- Nothing was acknowledged, so what was last is still last.
    obtain ⟨hlast, hcall⟩ := lastControl?_concat_none history hcontrols
    rw [hlink]
    refine ⟨h.connected, ?_, ?_⟩
    · rw [hlast]
      exact h.auto
    · rw [hlast, hcall]
      exact h.manual
  | begun hsucceeded hbegin hlink =>
    obtain ⟨hlast, hcall⟩ := lastControl?_concat_some history hbegin
    rw [hlink]
    refine ⟨h.connected, fun hauto => (by cases hauto), fun _ => ⟨o, hcall, ?_⟩⟩
    rw [hlast, hsucceeded]
    exact ⟨fun _ => rfl, fun _ => rfl⟩
  | committed hsucceeded hcommit hlink =>
    obtain ⟨hlast, -⟩ := lastControl?_concat_some history hcommit
    rw [hlink]
    refine ⟨h.connected, fun _ => ?_, fun hmanual => (by cases hmanual)⟩
    rw [hlast]
    decide
  | halfway hfailed hend hne hmanual hlink =>
    -- The transaction was ended and none is begun: the last control statement is no `BEGIN`, and
    -- its call failed.
    obtain ⟨hlast, hcall⟩ := lastControl?_concat_some history hend
    rw [hlink]
    refine ⟨h.connected, fun hauto => ?_, fun _ => ⟨o, hcall, ?_⟩⟩
    · rw [hmanual] at hauto
      cases hauto
    · rw [hlast, hfailed]
      constructor
      · intro hbegin
        exact absurd (Option.some.inj hbegin) hne
      · intro hsucceeded
        cases hsucceeded

/-- What every run of calls preserves. -/
theorem settled_after (s : S) (url : String) (requests : List Request)
    (hclose : ∀ request ∈ requests, request ≠ .close)
    (hplain : ∀ request ∈ requests, ∀ sql, request.sql? = some sql → sql ∉ controlStatements) :
    Settled (after server id ⟨s, ⟨url, true, true⟩⟩ requests).link
      (history server id ⟨s, ⟨url, true, true⟩⟩ requests) := by
  induction requests using List.reverseRecOn with
  | nil => exact ⟨rfl, fun _ => by simp [lastControl?, history], fun hmanual => by cases hmanual⟩
  | append_singleton requests request ih =>
    simp only [List.mem_append, List.mem_singleton] at hclose hplain
    have hsettled := ih (fun r hr => hclose r (.inl hr)) (fun r hr => hplain r (.inl hr))
    rw [after_concat, history_concat]
    exact hsettled.concat (controlStep_call server id hsettled.connected
      (hclose request (.inr rfl)) (hplain request (.inr rfl)))

/-- Whatever the server answers to the statements of a run, on a connection that was not closed and
whose caller sends no control statement: in auto-commit mode the last control statement that was
acknowledged is no `BEGIN`. In manual mode it is `BEGIN` exactly if the last call with such a
statement succeeded. So unless a commit or rollback failed after its statement was acknowledged,
every statement in manual mode runs in an open transaction. -/
theorem manual_mode_open (s : S) (url : String) (requests : List Request)
    (hclose : ∀ request ∈ requests, request ≠ .close)
    (hplain : ∀ request ∈ requests, ∀ sql, request.sql? = some sql → sql ∉ controlStatements) :
    let line : Line S := ⟨s, ⟨url, true, true⟩⟩
    let calls := history server id line requests
    let link := (after server id line requests).link
    (link.autoCommit = true → lastControl? calls ≠ some "BEGIN") ∧
      (link.autoCommit = false → ∃ o, lastControlCall? calls = some o ∧
        (lastControl? calls = some "BEGIN" ↔ o.succeeded = true)) ∧
      ((∀ o ∈ calls, o.controls ≠ [] → o.succeeded = true) →
        link.autoCommit = false → lastControl? calls = some "BEGIN") := by
  intro line calls link
  have hsettled : Settled link calls := settled_after server id s url requests hclose hplain
  refine ⟨hsettled.auto, hsettled.manual, fun hwhole hmanual => ?_⟩
  obtain ⟨o, hlast, hbegin⟩ := hsettled.manual hmanual
  obtain ⟨hmem, hcontrols⟩ := List.mem_filter.mp (List.mem_of_getLast? hlast)
  have hne : o.controls ≠ [] := by simpa using hcontrols
  exact hbegin.mpr (hwhole o hmem hne)

/-- A server that begins one transaction, and no other one. It counts the attempts. -/
def beginsOnce : Server Nat where
  login n _ _ := (n, .ok ())
  run n _ sql :=
    if sql = "BEGIN" then (n + 1, if n = 0 then .ok ⟨[], [], 0⟩ else .error "no more")
    else (n, .ok ⟨[], [], 1⟩)
  ping n _ := (n, true)
  logout n _ := (n, .ok ())

/-- Before the first commit the transaction is open. -/
theorem manual_mode_open_begun :
    let requests := [.setAutoCommit false, .executeUpdate "INSERT INTO t VALUES (1)"]
    (after beginsOnce ⟨0⟩ ⟨0, ⟨"url", true, true⟩⟩ requests).link.autoCommit = false ∧
      lastControl? (history beginsOnce ⟨0⟩ ⟨0, ⟨"url", true, true⟩⟩ requests) = some "BEGIN" := by
  intro requests
  have hmanual : (after beginsOnce ⟨0⟩ ⟨0, ⟨"url", true, true⟩⟩ requests).link.autoCommit = false :=
    by decide +kernel
  have hclose : ∀ request ∈ requests, request ≠ .close := by simp [requests]
  have hplain : ∀ request ∈ requests, ∀ sql, request.sql? = some sql →
      sql ∉ controlStatements := by
    simp [requests, Request.sql?, controlStatements]
  have hwhole : ∀ o ∈ history beginsOnce ⟨0⟩ ⟨0, ⟨"url", true, true⟩⟩ requests,
      o.controls ≠ [] → o.succeeded = true := by decide +kernel
  obtain ⟨-, -, hopen⟩ := manual_mode_open beginsOnce ⟨0⟩ 0 "url" requests hclose hplain
  exact ⟨hmanual, hopen hwhole hmanual⟩

/-- A commit is acknowledged, but the transaction after it is refused. The connection stays in
manual mode, and the next statement runs with no transaction open. -/
theorem commit_without_begin :
    let requests := [.setAutoCommit false, .commit, .executeUpdate "INSERT INTO t VALUES (1)"]
    let calls := history beginsOnce ⟨0⟩ ⟨0, ⟨"url", true, true⟩⟩ requests
    (after beginsOnce ⟨0⟩ ⟨0, ⟨"url", true, true⟩⟩ requests).link.autoCommit = false ∧
      lastControl? calls = some "COMMIT" ∧
      calls.flatMap (·.exchanges) =
        [⟨"BEGIN", true⟩, ⟨"COMMIT", true⟩, ⟨"BEGIN", false⟩,
          ⟨"INSERT INTO t VALUES (1)", true⟩] := by
  decide +kernel

end Line

end Postgres

end ClusterGate
