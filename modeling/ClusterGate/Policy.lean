import ClusterGate.Host
import ClusterGate.Log

/-!
# The strict-writer rule

On a connection in strict-writer mode a statement may run on a writer, or on a reader that is
tracked and forwards its writes. Every other statement is refused, and the connection stays usable.
-/

namespace ClusterGate

inductive Refusal
  | readerWithoutForwarding
  | untrackedHost
  deriving DecidableEq, Repr

namespace Refusal

/-- The reason as messages show it. -/
def text : Refusal → String
  | readerWithoutForwarding => "reader without write forwarding"
  | untrackedHost => "host not tracked"

/-- The reason as data files hold it. -/
def name : Refusal → String
  | readerWithoutForwarding => "reader_without_forwarding"
  | untrackedHost => "untracked_host"

end Refusal

/-- A statement refused in strict-writer mode. -/
structure Violation where
  method : String
  host : String
  sql : Option String
  reason : Refusal
  deriving DecidableEq, Repr

def Violation.message (v : Violation) : String :=
  "Strict-writer mode: Method " ++ v.method ++ " called on host " ++ v.host ++
    " which is not a writer instance and not a write-forwarding enabled reader. SQL: " ++
    v.sql.getD "N/A"

/-- What is known about the host that a statement is about to run on. -/
structure HostFacts where
  /-- The role in the topology, or for an untracked host the role it was opened with. -/
  role : HostRole
  tracked : Bool
  forwarding : Bool
  deriving DecidableEq, Repr

namespace HostFacts

def writer : HostFacts := ⟨.writer, true, false⟩

def reader (forwarding : Bool) : HostFacts := ⟨.reader, true, forwarding⟩

def untracked (role : HostRole) : HostFacts := ⟨role, false, false⟩

end HostFacts

/-- Why a statement may run. -/
inductive Permission
  | notEnforced
  | writer
  | forwardingReader
  deriving DecidableEq, Repr

def Permission.name : Permission → String
  | notEnforced => "not_enforced"
  | writer => "writer"
  | forwardingReader => "forwarding_reader"

namespace Policy

/-- The value of the session attribute switches the mode on. -/
def isStrict (value : Option String) : Bool :=
  value.any (Text.sameIgnoringCase · "true")

def judge (facts : HostFacts) : Except Refusal Permission :=
  if facts.role = .writer then .ok .writer
  else if facts.tracked && facts.forwarding then .ok .forwardingReader
  else if facts.tracked then .error .readerWithoutForwarding
  else .error .untrackedHost

/-- What the rule says about a statement, in strict-writer mode or not. -/
def check (strict : Bool) (method host : String) (sql : Option String) (facts : HostFacts) :
    Except Violation Permission :=
  if strict then (judge facts).mapError fun reason => { method, host, sql, reason }
  else .ok .notEnforced

def checkNotices (method host : String) : Except Violation Permission → List LogEntry
  | .ok .forwardingReader =>
    [Log.debug "Allowing call on write-forwarding reader"
      [("host", .text host), ("method", .text method)]]
  | .ok _ => []
  | .error v =>
    [Log.warn "Strict-writer violation"
      [("host", .text host), ("method", .text method), ("reason", .text v.reason.text)]]

end Policy

end ClusterGate
