import ClusterGate.Driver.Scripted
import ClusterGate.Proofs.Transaction

/-!
# Connections to servers after a close

A connection that was closed stays closed, and nothing that is called on it gets to the server
(`Line.call_closed`). Most calls are refused, as a scripted connection refuses them. Some end before
they look whether the connection is closed, and succeed all the same (`Link.endsEarly`): in
auto-commit mode there is no transaction to commit or to roll back, and for the mode that is on
already there is nothing to switch.
-/

namespace ClusterGate.Postgres

/-- The call has nothing to do, so it succeeds without a look at the connection. -/
def Link.endsEarly (link : Link) : Request → Bool
  | .commit | .rollback => link.autoCommit
  | .setAutoCommit enabled => link.autoCommit = enabled
  | _ => false

namespace Line

variable {S : Type}

/-! ## Calls on a closed connection -/

/-- What a call that ends early answers and logs does not depend on the server. -/
theorem call_early {line : Line S} {request : Request} (hearly : line.link.endsEarly request = true)
    (id : ConnectionId) :
    ∃ answer logs, answer.isOk = true ∧
      ∀ server : Server S, call server id request line = ⟨answer, line, logs⟩ := by
  have hended (hauto : line.link.autoCommit = true) (statement : String) (server : Server S) :
      endTransaction server id statement line =
        ⟨.ok (), line, [Log.debug (statement ++ " ignored in auto-commit mode")
          [("url", .text line.link.url)]]⟩ := by
    simp [endTransaction, bind, hauto]
  cases request with
  | commit => exact ⟨_, _, rfl, hended hearly "COMMIT"⟩
  | rollback => exact ⟨_, _, rfl, hended hearly "ROLLBACK"⟩
  | setAutoCommit enabled =>
    have hsame : line.link.autoCommit = enabled := of_decide_eq_true hearly
    exact ⟨.ok (), [], rfl, fun server => by simp [call, setAutoCommit, bind, hsame]⟩
  | _ => cases hearly

section
variable {line : Line S} (hclosed : line.link.connected = false) (server : Server S)
  (id : ConnectionId)
include hclosed

/-- On a closed connection nothing is sent. -/
theorem send_closed (sql : String) : send server id sql line = ⟨.error .closed, line, []⟩ := by
  simp [send, bind, hclosed]

theorem run_closed (sql : String) : run server id sql line = ⟨.error .closed, line, []⟩ := by
  simp [run, bind, send_closed hclosed, Except.map]

/-- Every other call is refused, a test says that the connection is not valid, and a close has
nothing to do. -/
theorem call_late {request : Request} (hlate : line.link.endsEarly request = false)
    (host : String) :
    call server id request line = ⟨Behaviour.healthy.answerClosed host request, line, []⟩ := by
  have hended (hmanual : line.link.autoCommit = false) (statement : String) :
      endTransaction server id statement line = ⟨.error .closed, line, []⟩ := by
    simp [endTransaction, bind, hmanual, run_closed hclosed]
  cases request with
  | execute sql =>
    simp [call, execute, bind, send_closed hclosed, Except.map, Behaviour.answerClosed]
  | executeQuery sql => simp [call, fetch, bind, send_closed hclosed, Behaviour.answerClosed]
  | executeUpdate sql | executeLargeUpdate sql =>
    simp [call, update, bind, run_closed hclosed, Except.map, Behaviour.answerClosed]
  | commit => exact hended hlate "COMMIT"
  | rollback => exact hended hlate "ROLLBACK"
  | setAutoCommit enabled =>
    have hother : line.link.autoCommit ≠ enabled := of_decide_eq_false hlate
    simp [call, setAutoCommit, bind, hother, run_closed hclosed, Behaviour.answerClosed]
  | isValid => simp [call, isValid, bind, hclosed, Behaviour.answerClosed]
  | close =>
    simp [call, close, bind, hclosed, Behaviour.answerClosed, Behaviour.answer, Behaviour.healthy,
      Behaviour.unlessFault]

/-- A call on a closed connection leaves everything as it was. -/
theorem call_closed (request : Request) : (call server id request line).state = line := by
  cases hearly : line.link.endsEarly request with
  | true =>
    obtain ⟨answer, logs, -, hstep⟩ := call_early hearly id
    rw [hstep server]
  | false => rw [call_late hclosed server id hearly ""]

end

/-! ## Runs with a close in them -/

variable (server : Server S) (id : ConnectionId)

/-- A connection is closed by a close, also when its session ends badly. -/
theorem close_disconnects (line : Line S) :
    (call server id .close line).state.link.connected = false := by
  by_cases hopen : line.link.connected = true
  · simp [call, close, hopen]
  · simp [call, close, hopen]

/-- No later call opens it again. -/
theorem disconnected_after (line : Line S) {requests : List Request} (hclose : .close ∈ requests) :
    (after server id line requests).link.connected = false := by
  induction requests using List.reverseRecOn with
  | nil => cases hclose
  | append_singleton requests request ih =>
    rw [after_concat]
    rcases List.mem_append.mp hclose with hbefore | hlast
    · rw [call_closed (ih hbefore)]
      exact ih hbefore
    · rw [← List.mem_singleton.mp hlast]
      exact close_disconnects server id _

/-- Nothing that is called on a closed connection is sent. -/
theorem exchanges_closed {line : Line S} (hclosed : line.link.connected = false)
    (request : Request) : (observe server id request line).exchanges = [] := by
  -- Writing down what is sent does not open the connection.
  let recording : Line (S × List Exchange) := ⟨(line.server, []), line.link⟩
  have hclosed' : recording.link.connected = false := hclosed
  have hkept : (call server.recorded id request recording).state = recording :=
    call_closed hclosed' server.recorded id request
  show (call server.recorded id request recording).state.server.2 = []
  rw [hkept]

/-- Whatever was called on a connection, and in whichever mode it is: once a close was among the
calls, every call leaves everything as it was and sends nothing, and would be answered the same with
any other server in place of this one. It is refused, but for a close, which succeeds, and for the
test, which says that the connection is not valid. The exceptions are the calls that end early: they
succeed. -/
theorem closed_line_answers (s : S) (url : String) (requests : List Request)
    (hclose : .close ∈ requests) (request : Request) :
    let line := after server id ⟨s, ⟨url, true, true⟩⟩ requests
    let step := call server id request line
    step.state = line ∧ (observe server id request line).exchanges = [] ∧
      (∀ other : Server S, call other id request line = step) ∧
      (line.link.endsEarly request = false →
        ∀ host, step.value = Behaviour.healthy.answerClosed host request) ∧
      (line.link.endsEarly request = true → step.value.isOk = true) := by
  intro line step
  have hclosed : line.link.connected = false := disconnected_after server id _ hclose
  refine ⟨call_closed hclosed server id request, exchanges_closed server id hclosed request, ?_⟩
  cases hearly : line.link.endsEarly request with
  | true =>
    obtain ⟨answer, logs, hok, hstep⟩ := call_early hearly id
    have hcall : step = ⟨answer, line, logs⟩ := hstep server
    refine ⟨fun other => ?_, fun hlate => absurd hlate (by decide), fun _ => ?_⟩
    · rw [hstep other, hcall]
    · rw [hcall]
      exact hok
  | false =>
    have hstep (other : Server S) (host : String) := call_late hclosed other id hearly host
    refine ⟨fun other => ?_, fun _ host => ?_, fun h => absurd h (by decide)⟩
    · exact (hstep other "").trans (hstep server "").symm
    · exact congrArg Step.value (hstep server host)

/-- In manual mode a commit on a closed connection is refused. -/
theorem closed_line_answers_manual :
    let line := after beginsOnce ⟨0⟩ ⟨0, ⟨"url", true, true⟩⟩ [.setAutoCommit false, .close]
    (call beginsOnce ⟨0⟩ .commit line).value = .error .closed := by
  intro line
  have hclose : Request.close ∈ [.setAutoCommit false, .close] := by decide
  have hlate : line.link.endsEarly .commit = false := by decide +kernel
  obtain ⟨-, -, -, hrefused, -⟩ :=
    closed_line_answers beginsOnce ⟨0⟩ 0 "url" [.setAutoCommit false, .close] hclose .commit
  exact hrefused hlate "db"

/-- In auto-commit mode it counts as a success, and so does a rollback, or a switch to that mode. -/
theorem commit_after_close :
    let line := after beginsOnce ⟨0⟩ ⟨0, ⟨"url", true, true⟩⟩ [.close]
    line.link.connected = false ∧
      (call beginsOnce ⟨0⟩ .commit line).value = .ok () ∧
      (call beginsOnce ⟨0⟩ .rollback line).value = .ok () ∧
      (call beginsOnce ⟨0⟩ (.setAutoCommit true) line).value = .ok () ∧
      (call beginsOnce ⟨0⟩ (.setAutoCommit false) line).value = .error .closed := by
  decide +kernel

end Line

end ClusterGate.Postgres
