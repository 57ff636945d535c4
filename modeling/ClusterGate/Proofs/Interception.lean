import ClusterGate.Gate.Intercept
import ClusterGate.Proofs.Frame

/-!
# What a call through the stages does

Seen from outside a call does one of two things. A control command on a connection that is held sets
the connection's mode, and nothing else happens (`callFor_command`). Any other call is checked, goes
to the driver if the check lets it pass, and a close then takes the session with it: this is
`proceed`, and up to log entries the stages come down to it (`callFor_pass`).
-/

namespace ClusterGate

/-! ## The stage of the control commands -/

/-- The mode that a call asks for, if it is a control command. -/
def Request.mode? (space : Namespace) : Request → Option Bool
  | execute sql | executeUpdate sql | executeLargeUpdate sql => Command.detect space sql
  | _ => none

/-- The gate after a control command on a connection. -/
def Gate.setMode (g : Gate) (id : ConnectionId) (enabled : Bool) : Gate :=
  { g with
    sessions := g.sessions.set g.isAlive id id.owner Command.modeAttribute
      (Command.modeValue enabled) }

namespace Site

variable {W : Type} (b : Backend W)

/-- A call that is no command, or has no connection, passes the first stage. -/
theorem consumeCommand_pass (target : Option Connection) (request : Request) (s : Site W)
    (h : request.mode? s.gate.space = none ∨ target = none) :
    let first := consumeCommand target request.method request.sql? request.shape s
    first.value = none ∧ first.state = s ∧ Event.contacts first.events = [] := by
  cases request with
  | execute sql | executeUpdate sql | executeLargeUpdate sql =>
    rcases h with h | rfl
    · rw [Request.mode?] at h
      simp [consumeCommand, Request.method, Method.acceptsCommand, Request.sql?, h]
    · cases hd : Command.detect s.gate.space sql <;>
        simp [consumeCommand, Request.method, Method.acceptsCommand, Request.sql?, hd]
  | _ => exact ⟨rfl, rfl, rfl⟩

/-- A command with a connection sets the mode, and its kind of call has an acknowledgement. -/
theorem consumeCommand_command (connection : Connection) (request : Request) (s : Site W)
    {enabled : Bool} (h : request.mode? s.gate.space = some enabled) :
    let first := consumeCommand (some connection) request.method request.sql? request.shape s
    (∃ acknowledgement, request.shape.acknowledgement = some acknowledgement ∧
        first.value = some acknowledgement) ∧
      first.state = { s with gate := s.gate.setMode connection.id enabled } ∧
      Event.contacts first.events = [] := by
  cases request with
  | execute sql | executeUpdate sql | executeLargeUpdate sql =>
    rw [Request.mode?] at h
    simp [consumeCommand, Request.method, Method.acceptsCommand, Request.sql?, Request.shape,
      Shape.acknowledgement, setAttribute, Gate.setMode, h]
  | _ => simp [Request.mode?] at h

/-! ## The whole of a call -/

/-- A call behind the stage of the control commands. -/
def proceed (target : Option Connection) (id : ConnectionId) (request : Request) :
    Act Event (Site W) (Except CallError request.Value) := do
  match ← enforceOn b target request.method request.sql? with
  | .error violation => return .error (.refused violation)
  | .ok () =>
    let result ← watching (Watch.call b .caller id request)
    if request.method = .close then
      if let some connection := target then clearAttributes connection.id
    return result.mapError .driver

/-- A call that is no command, or has no connection, is checked and goes to the driver. -/
theorem callFor_pass (target : Option Connection) (id : ConnectionId) (request : Request)
    (s : Site W) (h : request.mode? s.gate.space = none ∨ target = none) :
    let call := callFor b target id request s
    let behind := proceed b target id request s
    call.value = behind.value ∧ call.state = behind.state ∧
      Event.contacts call.events = Event.contacts behind.events := by
  obtain ⟨hvalue, hstate, hevents⟩ := consumeCommand_pass target request s h
  by_cases hsubscribed : request.method.isSubscribed = true
  · cases target with
    | none =>
      cases hchecked : (enforceOn b none request.method request.sql? s).value <;>
        simp [callFor, intercept, proceed, hsubscribed, hvalue, hstate, hevents, hchecked]
    | some connection =>
      cases hchecked : (enforceOn b (some connection) request.method request.sql? s).value <;>
        simp [callFor, intercept, proceed, hsubscribed, hvalue, hstate, hevents, hchecked]
  · -- A validity test passes by all stages, and none of them would have done anything to it.
    cases request with
    | isValid =>
      cases target <;>
        simp [callFor, intercept, proceed, enforceOn, Request.method, Method.isSubscribed,
          Method.runsStatement]
    | _ => exact absurd rfl hsubscribed

/-- A command on a connection that is held sets the mode and is acknowledged. The driver has no part
in it. -/
theorem callFor_command (connection : Connection) (id : ConnectionId) (request : Request)
    (s : Site W) {enabled : Bool} (h : request.mode? s.gate.space = some enabled) :
    let call := callFor b (some connection) id request s
    (∃ acknowledgement, request.shape.acknowledgement = some acknowledgement ∧
        call.value = .ok acknowledgement) ∧
      call.state = { s with gate := s.gate.setMode connection.id enabled } ∧
      Event.contacts call.events = [] := by
  obtain ⟨⟨acknowledgement, hack, hvalue⟩, hstate, hevents⟩ :=
    consumeCommand_command connection request s h
  have hsubscribed : request.method.isSubscribed = true := by
    cases request with
    | isValid => simp [Request.mode?] at h
    | _ => rfl
  simp [callFor, intercept, hsubscribed, hvalue, hstate, hevents, hack]

/-! ## The gate after a call -/

theorem confined_hostFacts (connection : Connection) : Confined (hostFacts b connection) := by
  unfold hostFacts
  refine .bind (.read _) fun known => ?_
  cases known with
  | none => exact .pure _
  | some record =>
    dsimp only
    split
    · exact .pure _
    · refine .bind (.watching _) fun refreshed => ?_
      cases refreshed <;> exact .pure _

theorem confined_enforce (connection : Connection) (method : Method) (sql : Option String) :
    Confined (enforce b connection method sql) := by
  unfold enforce
  refine .bind (.read _) fun strict => ?_
  split
  · exact .pure _
  · refine .bind (confined_hostFacts b connection) fun facts => ?_
    exact .bind (.log _) fun _ => .pure _

/-- Whatever the check finds out goes into the table and nowhere else. -/
theorem confined_enforceOn (target : Option Connection) (method : Method) (sql : Option String) :
    Confined (enforceOn b target method sql) := by
  cases target with
  | none => exact .pure _
  | some connection =>
    unfold enforceOn
    dsimp only
    split
    · exact confined_enforce b connection method sql
    · exact .pure _

/-- What a call leaves behind once the driver has answered: a close ends the session of its
connection. -/
def concluded (target : Option Connection) (request : Request) (s : Site W) : Site W :=
  match target with
  | some connection =>
    if request.method = .close then (clearAttributes connection.id s).state else s
  | none => s

@[simp] theorem concluded_world (target : Option Connection) (request : Request) (s : Site W) :
    (concluded target request s).world = s.world := by
  cases target with
  | none => rfl
  | some connection =>
    rw [concluded]
    split <;> rfl

@[simp] theorem concluded_tracker (target : Option Connection) (request : Request) (s : Site W) :
    (concluded target request s).gate.tracker = s.gate.tracker := by
  cases target with
  | none => rfl
  | some connection =>
    rw [concluded]
    split <;> rfl

section
variable {b} {target : Option Connection} (id : ConnectionId) {request : Request} {s : Site W}

/-- What the check refuses does not reach the driver. -/
theorem proceed_refused {violation : Violation}
    (h : (enforceOn b target request.method request.sql? s).value = .error violation) :
    let checked := enforceOn b target request.method request.sql? s
    proceed b target id request s =
      ⟨.error (.refused violation), checked.state, checked.events⟩ := by
  simp [proceed, bind, h]

/-- What the check lets pass is up to the driver, and a close takes the session with it. -/
theorem proceed_allowed
    (h : (enforceOn b target request.method request.sql? s).value = .ok ()) :
    let checked := enforceOn b target request.method request.sql? s
    let answered := Watch.call b .caller id request checked.state.watch
    let call := proceed b target id request s
    call.value = answered.value.mapError .driver ∧
      call.state = concluded target request (checked.state.resume answered.state) ∧
      Event.contacts call.events =
        Event.contacts checked.events ++ Event.contacts answered.events := by
  cases target with
  | none => simp [proceed, concluded, h]
  | some connection =>
    simp only [proceed, concluded, Act.bind_value, Act.bind_state, Act.bind_events, h]
    by_cases hclose : request.method = .close
    · simp [if_pos hclose, clearAttributes]
    · simp [if_neg hclose]

end

/-- Only statements are refused, and a close is none. -/
theorem ne_close_of_refused {target : Option Connection} {method : Method} {sql : Option String}
    {s : Site W} {violation : Violation}
    (h : (enforceOn b target method sql s).value = .error violation) : method ≠ .close := by
  rintro rfl
  cases target <;> cases h

theorem proceed_alike (target : Option Connection) (id : ConnectionId) (request : Request)
    (s : Site W) : s.gate.Alike (proceed b target id request s).state.gate := by
  have halike := (confined_enforceOn b target request.method request.sql?).alike s
  cases hvalue : (enforceOn b target request.method request.sql? s).value with
  | error violation =>
    rw [proceed_refused id hvalue]
    exact halike
  | ok _ =>
    obtain ⟨-, hstate, -⟩ := proceed_allowed id hvalue
    rw [hstate]
    cases target with
    | none => exact ⟨halike.config, halike.space, halike.handles, halike.minted⟩
    | some connection =>
      rw [concluded]
      split <;> exact ⟨halike.config, halike.space, halike.handles, halike.minted⟩

/-- Of a call that is no command only a close touches the session store. -/
theorem proceed_sessions (target : Option Connection) (id : ConnectionId) (request : Request)
    (s : Site W) :
    (proceed b target id request s).state.gate.sessions =
      match target with
      | some connection =>
        if request.method = .close then s.gate.sessions.clear connection.id else s.gate.sessions
      | none => s.gate.sessions := by
  have hkept := (confined_enforceOn b target request.method request.sql?).sessions s
  cases hvalue : (enforceOn b target request.method request.sql? s).value with
  | error violation =>
    have hopen := ne_close_of_refused b hvalue
    rw [proceed_refused id hvalue]
    cases target with
    | none => exact hkept
    | some connection => simpa [hopen] using hkept
  | ok _ =>
    obtain ⟨-, hstate, -⟩ := proceed_allowed id hvalue
    rw [hstate]
    cases target with
    | none => exact hkept
    | some connection =>
      by_cases hclose : request.method = .close
      · simp only [concluded, resume, if_pos hclose, clearAttributes_state, hkept]
      · simpa only [concluded, resume, if_neg hclose] using hkept

/-- A call leaves configuration and handles alone. -/
theorem callFor_alike (target : Option Connection) (id : ConnectionId) (request : Request)
    (s : Site W) : s.gate.Alike (callFor b target id request s).state.gate := by
  cases hmode : request.mode? s.gate.space with
  | none =>
    rw [(callFor_pass b target id request s (.inl hmode)).2.1]
    exact proceed_alike b target id request s
  | some enabled =>
    cases target with
    | none =>
      rw [(callFor_pass b none id request s (.inr rfl)).2.1]
      exact proceed_alike b none id request s
    | some connection =>
      rw [(callFor_command b connection id request s hmode).2.1]
      exact ⟨rfl, rfl, rfl, rfl⟩

end Site

/-- The session store after a call: a command sets the mode of its connection, a close ends the
session of its connection, and nothing else touches it. -/
def Gate.sessionsAfter (g : Gate) (target : Option Connection) (request : Request) : Sessions :=
  match target with
  | none => g.sessions
  | some connection =>
    match request.mode? g.space with
    | some enabled => (g.setMode connection.id enabled).sessions
    | none =>
      if request.method = .close then g.sessions.clear connection.id else g.sessions

namespace Site

variable {W : Type} (b : Backend W)

/-- What a call does to sessions is fixed by the gate that it finds: no answer of the driver counts.
-/
theorem callFor_sessions (target : Option Connection) (id : ConnectionId) (request : Request)
    (s : Site W) :
    (callFor b target id request s).state.gate.sessions =
      s.gate.sessionsAfter target request := by
  cases target with
  | none =>
    rw [(callFor_pass b none id request s (.inr rfl)).2.1, proceed_sessions]
    rfl
  | some connection =>
    cases hmode : request.mode? s.gate.space with
    | none =>
      rw [(callFor_pass b (some connection) id request s (.inl hmode)).2.1, proceed_sessions,
        Gate.sessionsAfter, hmode]
    | some enabled =>
      rw [(callFor_command b connection id request s hmode).2.1, Gate.sessionsAfter, hmode]

end Site

end ClusterGate
