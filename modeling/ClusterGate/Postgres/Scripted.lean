import ClusterGate.Postgres.Link
import ClusterGate.Probe

/-!
# Scripted servers

Servers that answer as laid down beforehand, to rehearse connections against. A statement that
nothing is laid down for succeeds and changes nothing, but for the queries that a gate asks on its
own account. Hosts and ports at which no server listens refuse every connection.
-/

namespace ClusterGate.Postgres

/-- What a scripted server does on a statement. -/
inductive ScriptedReply
  | reply (r : Reply)
  | fails (message : String)
  /-- The server ends the session. -/
  | drops
  deriving DecidableEq, Repr

def Reply.value (text : String) : Reply := ⟨[⟨"value", .text⟩], [[.text text]], 1⟩

def Reply.changed (n : Nat) : Reply := ⟨[], [], n⟩

structure Script where
  /-- The server refuses logins. -/
  refuses : Bool
  replies : Dict String ScriptedReply
  deriving DecidableEq, Repr

namespace Script

/-- Nothing is laid down. -/
def healthy : Script := ⟨false, ∅⟩

/-- What is answered where nothing is laid down. -/
def defaultReply (sql : String) : Reply :=
  if sql = versionQuery then
    .value "PostgreSQL 17.4 on x86_64-pc-linux-gnu, compiled by gcc, 64-bit"
  else if sql = markerQuery then .value "17.4.0"
  else if sql = forwardingQuery then .value "off"
  else .changed 0

def answer (s : Script) (sql : String) : ScriptedReply :=
  (s.replies.get? sql).getD (.reply (defaultReply sql))

end Script

inductive Seen
  | login (l : Login)
  | statement (host sql : String)
  deriving DecidableEq, Repr

/-- Scripted servers and the sessions that are open with them. -/
structure ScriptedServers where
  /-- The hosts and ports at which servers listen. -/
  listening : List (String × Nat)
  scripts : Dict String Script
  /-- The hosts of the open sessions. -/
  sessions : Dict ConnectionId String
  /-- What was seen so far, the last first. -/
  seen : List Seen
  deriving DecidableEq, Repr

namespace ScriptedServers

def start (listening : List (String × Nat)) (scripts : Dict String Script) : ScriptedServers :=
  ⟨listening, scripts, ∅, []⟩

def script (s : ScriptedServers) (host : String) : Script := (s.scripts.get? host).getD .healthy

/-- The message of everything that fails for another reason than that a server says so. -/
def unexplained : String := ""

def login (s : ScriptedServers) (id : ConnectionId) (l : Login) :
    ScriptedServers × Except String Unit :=
  if !s.listening.contains (l.host, l.port) then (s, .error unexplained)
  else
    let s := { s with seen := .login l :: s.seen }
    if (s.script l.host).refuses then (s, .error unexplained)
    else ({ s with sessions := s.sessions.insert id l.host }, .ok ())

def run (s : ScriptedServers) (id : ConnectionId) (sql : String) :
    ScriptedServers × Except String Reply :=
  match s.sessions.get? id with
  | none => (s, .error unexplained)
  | some host =>
    let s := { s with seen := .statement host sql :: s.seen }
    match (s.script host).answer sql with
    | .reply r => (s, .ok r)
    | .fails m => (s, .error ("error returned from database: " ++ m))
    | .drops => ({ s with sessions := s.sessions.erase id }, .error unexplained)

def server : Server ScriptedServers where
  login := login
  run := run
  ping s id := (s, (s.sessions.get? id).isSome)
  logout s id := ({ s with sessions := s.sessions.erase id }, .ok ())

end ScriptedServers

end ClusterGate.Postgres
