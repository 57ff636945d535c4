import ClusterGate.Host
import ClusterGate.Text.Decimal
import ClusterGate.Text.Split

/-!
# Host lists as text

A host list is written `role:host:port, role:host:port, ...`. Blank entries are skipped, and blank
characters around a field mean nothing. One bad entry refuses the whole list, and the error names
the first bad one.
-/

namespace ClusterGate

/-- Why a host list could not be had. -/
inductive ListingError
  /-- The source of host lists failed with this message. -/
  | unavailable (message : String)
  /-- The entry, without blank characters around it, is no `role:host:port`. -/
  | invalidEntry (entry : String)
  deriving DecidableEq, Repr

def ListingError.message : ListingError → String
  | .unavailable m => "host discovery failed: " ++ m
  | .invalidEntry e => "invalid host list entry: " ++ e

namespace Listing

def portBound : Nat := 65536

/-- The three fields of an entry: it is cut at its first two colons. -/
def fields? (entry : List Char) : Option (List Char × List Char × List Char) := do
  let (role, rest) ← Text.cut? ':' entry
  let (host, port) ← Text.cut? ':' rest
  return (role, host, port)

def spec? (entry : List Char) : Option HostSpec := do
  let (role, host, port) ← fields? entry
  let role ← HostRole.parse? (String.ofList role)
  let port ← (Text.readDecimal portBound (Text.trim port)).toOption
  if Text.allBlank host then none
  else some { host := String.ofList (Text.trim host), port, role }

/-- The entries of a list that are not blank, without blank characters around them. -/
def entries (raw : List Char) : List (List Char) :=
  ((Text.pieces ',' raw).map Text.trim).filter fun e => !e.isEmpty

/-- Read one entry, or name it in the error. -/
def readEntry (entry : List Char) : Except ListingError HostSpec :=
  match spec? entry with
  | some spec => .ok spec
  | none => .error (.invalidEntry (String.ofList entry))

/-- Read a host list, in its order. -/
def parse (raw : String) : Except ListingError (List HostSpec) :=
  (entries raw.toList).mapM readEntry

end Listing

end ClusterGate
