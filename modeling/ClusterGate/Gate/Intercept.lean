import ClusterGate.Gate.Basic

/-!
# Intercepted calls

Every call passes the same stages in order. A control command is consumed and answered without the
driver. A statement on a connection in strict-writer mode has to satisfy the rule, for which the
host's record is brought up to date first. What passes goes to the driver, at most once. A close
takes the session attributes with it, whether or not the driver closes.
-/

namespace ClusterGate.Site

variable {W : Type} (b : Backend W)

/-- Consume a control command: the connection's mode is set, and the answer is the acknowledgement
of the call's kind. A call that is no command, has no connection or has no acknowledgement is not
consumed. -/
def consumeCommand (target : Option Connection) (method : Method) (sql : Option String)
    (shape : Shape) : Act Event (Site W) (Option shape.Value) := do
  if !method.acceptsCommand then return none
  let space ← Act.read (·.gate.space)
  let command := sql.bind (Command.detect space)
  log (Command.detectNotices command)
  -- A command without a connection, or without an answer to give, goes on to the driver as it is.
  match command, target, shape.acknowledgement with
  | none, _, _ => return none
  | some _, none, _ =>
    log [Log.debug "Control command without owning connection, forwarding to driver"
      [("method", .text method.name)]]
    return none
  | some _, some _, none =>
    log [Log.warn "No synthetic result for control command, forwarding to driver"
      [("method", .text method.name)]]
    return none
  | some enabled, some connection, some acknowledgement =>
    let value := Command.modeValue enabled
    setAttribute connection.id connection.id.owner Command.modeAttribute value
    log [Log.info "Strict-writer mode set"
      [("host", .text connection.host.host), ("strict_writer", .text value)]]
    return some acknowledgement

/-- What is known about the host of a connection. A tracked reader's record is brought up to date
first. -/
def hostFacts (connection : Connection) : Act Event (Site W) HostFacts := do
  let host := connection.host.host
  match ← Act.read (·.gate.tracker.record? host) with
  | none => return .untracked connection.host.role
  | some record =>
    if record.isWriter then return .writer
    -- Topologies may arrive while the probe runs, so what comes back is looked at afresh.
    match ← watching (Watch.refresh b connection.id host) with
    | none => return .untracked connection.host.role
    | some record => return if record.isWriter then .writer else .reader record.forwarding

/-- Check a statement against the strict-writer rule, where the connection is in that mode. -/
def enforce (connection : Connection) (method : Method) (sql : Option String) :
    Act Event (Site W) (Except Violation Unit) := do
  if !(← Act.read (·.gate.isStrict connection.id)) then return .ok ()
  let facts ← hostFacts b connection
  let verdict := Policy.check true method.name connection.host.host sql facts
  log (Policy.checkNotices method.name connection.host.host verdict)
  return verdict.map fun _ => ()

/-- The strict-writer rule speaks about statements that have a connection. -/
def enforceOn (target : Option Connection) (method : Method) (sql : Option String) :
    Act Event (Site W) (Except Violation Unit) :=
  match target with
  | some connection =>
    if method.runsStatement then enforce b connection method sql else pure (.ok ())
  | none => pure (.ok ())

/-- Run a call through the stages. `delegate` is the driver call. -/
def intercept (target : Option Connection) (method : Method) (sql : Option String) (shape : Shape)
    (delegate : Act Event (Site W) (Except DriverError shape.Value)) :
    Act Event (Site W) (Except CallError shape.Value) := do
  if target.isNone then
    log [Log.debug "Call target has no owning connection" [("method", .text method.name)]]
  -- Calls that are not intercepted are neither consumed nor checked.
  if !method.isSubscribed then return (← delegate).mapError .driver
  match ← consumeCommand target method sql shape with
  | some acknowledgement => return .ok acknowledgement
  | none =>
    match ← enforceOn b target method sql with
    | .error violation => return .error (.refused violation)
    | .ok () =>
      let result ← delegate
      -- The session ends whatever the driver answered.
      if method = .close then
        if let some connection := target then clearAttributes connection.id
      return result.mapError .driver

/-- Make a call on the physical connection with this lifetime, for the given target. -/
def callFor (target : Option Connection) (id : ConnectionId) (request : Request) :
    Act Event (Site W) (Except CallError request.Value) :=
  intercept b target request.method request.sql? request.shape
    (watching (Watch.call b .caller id request))

def callConnection (connection : Connection) (request : Request) :
    Act Event (Site W) (Except CallError request.Value) :=
  callFor b (some connection) connection.id request

/-- Make a call on a statement. Its connection is looked up first, and may be gone. -/
def callStatement (statement : Statement) (request : Request) :
    Act Event (Site W) (Except CallError request.Value) := do
  let target ← Act.read (·.gate.ownerOf statement)
  callFor b target statement.owner request

end ClusterGate.Site
