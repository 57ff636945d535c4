import ClusterGate.Text.Blank
import ClusterGate.Text.Case

/-!
# Hosts of a cluster

A host is identified by its name alone: two entries with one name and different ports speak of the
same host.
-/

namespace ClusterGate

/-- What a member of the cluster is at a point in time. -/
inductive HostRole
  | writer
  | reader
  deriving DecidableEq, Repr

namespace HostRole

/-- The role in capitals, as messages show it. -/
def text : HostRole → String
  | writer => "WRITER"
  | reader => "READER"

/-- The role in small letters, as data files hold it. -/
def name : HostRole → String
  | writer => "writer"
  | reader => "reader"

/-- Read a role name in any ASCII case, with blank characters around it. -/
def parse? (s : String) : Option HostRole :=
  let word := Text.trimmed s
  if Text.sameIgnoringCase word "writer" then some writer
  else if Text.sameIgnoringCase word "reader" then some reader
  else none

end HostRole

/-- An entry of a cluster's host list. -/
structure HostSpec where
  host : String
  port : Nat
  role : HostRole
  deriving DecidableEq, Repr

namespace HostSpec

def text (spec : HostSpec) : String := spec.host ++ ":" ++ toString spec.port

def isWriter (spec : HostSpec) : Bool := spec.role = .writer

end HostSpec

end ClusterGate
