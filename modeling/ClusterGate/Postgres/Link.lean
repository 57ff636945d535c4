import ClusterGate.Act
import ClusterGate.Postgres.Server
import ClusterGate.Postgres.Statement

/-!
# Connections to Postgres servers

A server commits every statement unless a transaction was begun. While auto-commit is off, one is
kept open: it is begun when auto-commit is switched off, and begun again after every commit and
rollback.
-/

namespace ClusterGate.Postgres

structure Link where
  url : String
  /-- The connection was not closed. -/
  connected : Bool
  autoCommit : Bool
  deriving DecidableEq, Repr

/-- A connection and the servers around it. -/
structure Line (S : Type) where
  server : S
  link : Link

namespace Line

variable {S : Type} (server : Server S) (id : ConnectionId)

/-- Send a statement, unless the connection was closed. -/
def send (sql : String) : Act LogEntry (Line S) (Except DriverError Reply) := do
  let line ← Act.state
  if !line.link.connected then return .error .closed
  let (s, reply) := server.run line.server id sql
  Act.update fun line => { line with server := s }
  return reply.mapError .queryFailed

/-- Send a statement for its effect. -/
def run (sql : String) : Act LogEntry (Line S) (Except DriverError Nat) := do
  return (← send server id sql).map (·.affected)

/-- Send a statement for its rows. -/
def fetch (sql : String) : Act LogEntry (Line S) (Except DriverError QueryResult) := do
  match ← send server id sql with
  | .error e => return .error e
  | .ok reply =>
    Act.emit reply.notices
    return .ok reply.result

/-- Statements that return rows are sent for them, though only the fact is told. -/
def execute (sql : String) : Act LogEntry (Line S) (Except DriverError Bool) := do
  return (← send server id sql).map fun _ => returnsRows sql

/-- The largest count of changed rows that an update answers, and that a large update does. -/
def updateBound : Nat := Nat.pow 2 31 - 1

def largeUpdateBound : Nat := Nat.pow 2 63 - 1

/-- Send a statement for the count of rows it changes. -/
def update (bound : Nat) (sql : String) : Act LogEntry (Line S) (Except DriverError Int) := do
  return (← run server id sql).map fun n => (min n bound : Nat)

/-- End the transaction and begin the next one. While every statement is committed there is none to
end. -/
def endTransaction (statement : String) : Act LogEntry (Line S) (Except DriverError Unit) := do
  let link ← Act.read Line.link
  if link.autoCommit then
    Act.emit [Log.debug (statement ++ " ignored in auto-commit mode") [("url", .text link.url)]]
    return .ok ()
  -- Where the second statement fails no transaction is open, but the mode stays.
  match ← run server id statement with
  | .error e => return .error e
  | .ok _ => return (← run server id "BEGIN").map fun _ => ()

/-- Switch auto-commit. Switching it on commits the open transaction. -/
def setAutoCommit (enabled : Bool) : Act LogEntry (Line S) (Except DriverError Unit) := do
  -- Asking for the mode that is on already sends nothing, even on a connection that was closed.
  if (← Act.read (·.link.autoCommit)) = enabled then return .ok ()
  match ← run server id (if enabled then "COMMIT" else "BEGIN") with
  | .error e => return .error e
  | .ok _ =>
    Act.update fun line => { line with link := { line.link with autoCommit := enabled } }
    return .ok ()

/-- The connection was not closed, and its session still answers. -/
def isValid : Act LogEntry (Line S) (Except DriverError Bool) := do
  let line ← Act.state
  if !line.link.connected then return .ok false
  let (s, answers) := server.ping line.server id
  Act.update fun line => { line with server := s }
  return .ok answers

/-- Close the connection. It counts as closed also when its session ends badly. -/
def close : Act LogEntry (Line S) (Except DriverError Unit) := do
  let line ← Act.state
  if !line.link.connected then return .ok ()
  let (s, ended) := server.logout line.server id
  Act.update fun line => { line with server := s, link := { line.link with connected := false } }
  return ended.mapError .queryFailed

def call : (r : Request) → Act LogEntry (Line S) (Except DriverError r.Value)
  | .execute sql => execute server id sql
  | .executeQuery sql => fetch server id sql
  | .executeUpdate sql => update server id updateBound sql
  | .executeLargeUpdate sql => update server id largeUpdateBound sql
  | .commit => endTransaction server id "COMMIT"
  | .rollback => endTransaction server id "ROLLBACK"
  | .setAutoCommit enabled => setAutoCommit server id enabled
  | .isValid => isValid server id
  | .close => close server id

end Line

/-! ### The outside world -/

structure Links (S : Type) where
  server : S
  links : Dict ConnectionId Link
  /-- The time in nanoseconds. -/
  clock : Nat

namespace Links

variable {S : Type} (server : Server S) (target : Target)

def start (s : S) : Links S := ⟨s, ∅, 0⟩

def connect (w : Links S) (id : ConnectionId) (protocol : String) (host : HostSpec)
    (props : Properties) : Links S × Answer Unit :=
  let login := target.login host props
  let logs := [Log.debug "Opening Postgres connection"
    [("protocol", .text protocol), ("url", .text login.url)]]
  match server.login w.server id login with
  | (s, .error m) => ({ w with server := s }, ⟨.error (.connectFailed host.host m), [], logs⟩)
  | (s, .ok ()) =>
    ({ w with server := s, links := w.links.insert id ⟨login.url, true, true⟩ }, ⟨.ok (), [], logs⟩)

def call (w : Links S) (id : ConnectionId) (r : Request) : Links S × Answer r.Value :=
  match w.links.get? id with
  | none => (w, .of (.error .closed))
  | some link =>
    let step := Line.call server id r ⟨w.server, link⟩
    ({ w with server := step.state.server, links := w.links.insert id step.state.link },
      ⟨step.value, [], step.events⟩)

def backend : Backend (Links S) where
  connect w id protocol host props := w.connect server target id protocol host props
  call w id r := w.call server id r
  url w id := ((w.links.get? id).map (·.url)).getD ""
  now w := w.clock

end Links

end ClusterGate.Postgres
