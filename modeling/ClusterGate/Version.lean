import ClusterGate.Log
import ClusterGate.Text.Case
import ClusterGate.Text.Decimal
import ClusterGate.Text.Split

/-!
# Server version lines

A server introduces itself with a line such as `PostgreSQL 17.2 on x86_64-pc-linux-gnu`. Reading it
never fails: a line that does not name the engine is of an unknown engine, and a version that cannot
be read is version 0.
-/

namespace ClusterGate

def targetEngine : String := "PostgreSQL"

/-- The name of every other engine. -/
def unknownEngine : String := "Unknown"

/-- The lowest major version with the features of the cluster engine. -/
def featureVersion : Nat := 17

structure ServerVersion where
  engine : String
  major : Nat
  line : String
  deriving DecidableEq, Repr

namespace ServerVersion

/-- Why no major version could be read from a line that names the engine. -/
inductive Fault
  | unexpectedFormat
  | badMajor (fault : Text.DecimalFault)
  deriving DecidableEq, Repr

def majorBound : Nat := Nat.pow 2 32

/-- The line names the engine somewhere, in any case. -/
def namesEngine (line : String) : Bool :=
  Text.contains "postgresql".toList (line.toList.flatMap Text.lower)

/-- The major version: the second word up to its first full stop, where the first word is the
engine. Words end at single spaces. -/
def major? (line : String) : Except Fault Nat :=
  match Text.pieces ' ' line.toList with
  | engine :: version :: _ =>
    if Text.sameIgnoringCase (String.ofList engine) targetEngine then
      (Text.readDecimal majorBound (Text.upTo '.' version)).mapError .badMajor
    else .error .unexpectedFormat
  | _ => .error .unexpectedFormat

def ofLine (line : String) : ServerVersion :=
  -- A line that names the engine is that engine's, even if no version can be read from it.
  if namesEngine line then ⟨targetEngine, (major? line).toOption.getD 0, line⟩
  else ⟨unknownEngine, 0, line⟩

def ofLineNotices (line : String) : List LogEntry :=
  if namesEngine line then
    match major? line with
    | .ok _ => []
    | .error .unexpectedFormat =>
      [Log.warn "Unexpected server version format" [("version", .text line)]]
    | .error (.badMajor fault) =>
      [Log.warn "Could not parse major version from server version line"
        [("version", .text line), ("error", .text fault.message)]]
  else []

def isTarget (v : ServerVersion) : Bool := v.engine == targetEngine

end ServerVersion

end ClusterGate
