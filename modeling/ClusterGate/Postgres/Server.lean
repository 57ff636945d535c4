import ClusterGate.Driver
import ClusterGate.Postgres.Cell
import ClusterGate.Postgres.Target

/-!
# Servers

A server is a set of functions on a state `S`, of which the library knows nothing: sessions are
opened, run statements one at a time, and end. Whatever fails does so with a message.
-/

namespace ClusterGate.Postgres

/-- What a statement that succeeds brings back. -/
structure Reply where
  columns : List Column
  rows : List (List Cell)
  /-- How many rows the statement returned or changed. -/
  affected : Nat
  deriving DecidableEq, Repr

/-- The servers of a cluster. -/
structure Server (S : Type) where
  /-- Open a session for a connection. -/
  login : S → ConnectionId → Login → S × Except String Unit
  /-- Run a statement. -/
  run : S → ConnectionId → (sql : String) → S × Except String Reply
  /-- The session still answers. -/
  ping : S → ConnectionId → S × Bool
  /-- End the session. -/
  logout : S → ConnectionId → S × Except String Unit

def Server.unreachable : Server Unit where
  login _ _ _ := ((), .error "no server listens there")
  run _ _ _ := ((), .error "there is no session")
  ping _ _ := ((), false)
  logout _ _ := ((), .ok ())

/-- Rows as they are handed out. Without a row, the names of the columns are lost. -/
def Reply.result (r : Reply) : QueryResult where
  columns := if r.rows.isEmpty then [] else r.columns.map (·.name)
  rows := r.rows.map fun row => (r.columns.zip row).map fun p => Cell.render p.1 p.2

def Reply.notices (r : Reply) : List LogEntry :=
  r.rows.flatMap fun row => (r.columns.zip row).flatMap fun p => Cell.notices p.1 p.2

end ClusterGate.Postgres
