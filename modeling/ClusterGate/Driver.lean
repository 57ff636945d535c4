import ClusterGate.Config
import ClusterGate.Driver.Request
import ClusterGate.Log

/-!
# The outside world

A backend is everything outside the library: the driver, the servers behind it and the clock. It is
a set of functions on a world `W`, of which the library knows nothing. While a driver call runs, the
cluster may change: the answer of a call therefore also carries the topology changes that arrived in
the meantime, in order.
-/

namespace ClusterGate

/-- The lifetime of one physical connection. No two connections share one. -/
structure ConnectionId where
  number : Nat
  deriving DecidableEq, Repr

instance : LT ConnectionId := ⟨fun a b => a.number < b.number⟩

instance : DecidableLT ConnectionId := fun a b => inferInstanceAs (Decidable (a.number < b.number))

/-- A new host list for the cluster. -/
structure TopologyPush where
  hosts : List HostSpec
  /-- The change was published, so the writers in the preferred zone are reported. -/
  announced : Bool
  deriving DecidableEq, Repr

/-- What a driver call brings back. -/
structure Answer (α : Type) where
  result : Except DriverError α
  /-- The topology changes that arrived while the call ran. -/
  pushes : List TopologyPush
  /-- What the driver logged. -/
  logs : List LogEntry

/-- An answer of a call during which nothing else happened. -/
def Answer.of {α : Type} (result : Except DriverError α) : Answer α := ⟨result, [], []⟩

/-- The outside world. -/
structure Backend (W : Type) where
  /-- Open a physical connection. -/
  connect : W → ConnectionId → (protocol : String) → HostSpec → Properties → W × Answer Unit
  /-- Make a call on a physical connection. -/
  call : W → ConnectionId → (request : Request) → W × Answer request.Value
  /-- The address of a physical connection, for log entries. -/
  url : W → ConnectionId → String
  /-- The time in nanoseconds, on a clock that is never set. -/
  now : W → Nat

/-- Who makes a driver call. -/
inductive Origin
  /-- The caller, through the library. -/
  | caller
  /-- The library, to find something out about the server. -/
  | probe
  deriving DecidableEq, Repr

/-- Something that happens while the library works. -/
inductive Event
  | opened (id : ConnectionId) (protocol : String) (host : HostSpec)
  | called (id : ConnectionId) (origin : Origin) (request : Request)
  | logged (entry : LogEntry)
  deriving DecidableEq, Repr

namespace Event

def logs (events : List Event) : List LogEntry :=
  events.filterMap fun
    | .logged entry => some entry
    | _ => none

/-- The driver calls among some events, openings left out. -/
def calls (events : List Event) : List (ConnectionId × Request) :=
  events.filterMap fun
    | .called id _ request => some (id, request)
    | _ => none

end Event

end ClusterGate
