import ClusterGate.Policy
import ClusterGate.Probe
import ClusterGate.Session

/-!
# The gate

A gate stands between callers and a driver. All its connections share one host table and one store
of session attributes. Callers hold handles: a connection handle lives until it is released, and its
end makes the session entry tied to it an orphan. A statement names the connection that it was
created from, and has no connection any more once that handle is released.
-/

namespace ClusterGate

/-- A connection handle. -/
structure Connection where
  id : ConnectionId
  host : HostSpec
  capabilities : Capabilities
  deriving DecidableEq, Repr

/-- A statement handle. It reaches the physical connection also after the connection handle is
released. -/
structure Statement where
  owner : ConnectionId
  deriving DecidableEq, Repr

/-- The owner that a connection's session entry is tied to. -/
def ConnectionId.owner (id : ConnectionId) : Owner := ⟨id.number⟩

inductive CallError
  /-- Opening a connection to the host, or its version query, failed. -/
  | connectFailed (host : String) (source : DriverError)
  /-- The strict-writer rule refused the call. -/
  | refused (violation : Violation)
  /-- The driver call failed. -/
  | driver (error : DriverError)
  /-- The gate cannot be made from its configuration. -/
  | badConfig (fault : EmptyNamespace)
  deriving DecidableEq, Repr

def CallError.message : CallError → String
  | .connectFailed host source => "failed to connect to " ++ host ++ ": " ++ source.message
  | .refused violation => violation.message
  | .driver error => error.message
  | .badConfig fault => "invalid plugin configuration: " ++ fault.message

structure Gate where
  config : Config
  /-- The namespace of the control command. -/
  space : Namespace
  tracker : Tracker
  sessions : Sessions
  /-- The connection handles that were not released yet, in the order of their creation. -/
  handles : List Connection
  /-- The number of connection lifetimes that were begun. -/
  minted : Nat
  deriving Repr

namespace Gate

def ofConfig (config : Config) : Except CallError Gate :=
  match Namespace.ofText config.commandNamespace with
  | .error fault => .error (.badConfig fault)
  | .ok space =>
    .ok {
      config, space, tracker := .ofConfig config, sessions := .empty, handles := [], minted := 0 }

def ofConfigNotices (config : Config) : List LogEntry :=
  match Namespace.ofText config.commandNamespace with
  | .error _ => []
  | .ok _ => config.zonesNotices ++
    [Log.info "Aurora plugin initialised"
      [("preferred_az", .text (config.preferredAz.getD "none")),
        ("write_forwarding_check_interval_secs", .count config.checkInterval),
        ("command_namespace", .text config.commandNamespace)]]

/-- The handle of a connection, if it was not released. -/
def connection? (g : Gate) (id : ConnectionId) : Option Connection := g.handles.find? (·.id = id)

/-- The connection that a statement belongs to, if its handle was not released. -/
def ownerOf (g : Gate) (s : Statement) : Option Connection := g.connection? s.owner

/-- The owner is the handle of a connection that was not released. -/
def isAlive (g : Gate) (o : Owner) : Bool := g.handles.any (·.id.owner == o)

def attribute? (g : Gate) (id : ConnectionId) (key : String) : Option String :=
  g.sessions.get? id key

def isStrict (g : Gate) (id : ConnectionId) : Bool :=
  Policy.isStrict (g.attribute? id Command.modeAttribute)

/-- The connection probed last reached a server with the features of the cluster engine. -/
def hasFeatures (g : Gate) : Bool := g.tracker.featureEngine

end Gate

/-- A gate and the world around it. -/
structure Site (W : Type) where
  gate : Gate
  world : W

namespace Site

variable {W : Type}

def log (entries : List LogEntry) : Act Event (Site W) Unit := Act.emit (entries.map .logged)

def change (f : Gate → Gate) : Act Event (Site W) Unit :=
  Act.update fun s => { s with gate := f s.gate }

/-- Work on the host table. -/
def watching {α : Type} (x : Act Event (Watch W) α) : Act Event (Site W) α :=
  Act.within (fun s => ⟨s.gate.tracker, s.world⟩)
    (fun watch s => ⟨{ s.gate with tracker := watch.tracker }, watch.world⟩) x

/-! ### Session attributes -/

def setAttribute (id : ConnectionId) (owner : Option Owner) (key value : String) :
    Act Event (Site W) Unit := do
  let g ← Act.read Site.gate
  log (g.sessions.purgeNotices g.isAlive)
  change fun g => { g with sessions := g.sessions.set g.isAlive id owner key value }

def clearAttributes (id : ConnectionId) : Act Event (Site W) Unit := do
  let g ← Act.read Site.gate
  log (g.sessions.clearNotices id)
  change fun g => { g with sessions := g.sessions.clear id }

/-- Sweep away the session attributes whose connection handle was released, and return their
number. -/
def purge : Act Event (Site W) Nat := do
  let g ← Act.read Site.gate
  log (g.sessions.purgeNotices g.isAlive)
  change fun g => { g with sessions := g.sessions.purge g.isAlive }
  return g.sessions.orphans g.isAlive

/-! ### The cluster -/

/-- Take in a topology that was published. -/
def announce (hosts : List HostSpec) : Act Event (Site W) Unit := do
  let g ← Act.read Site.gate
  log (g.tracker.receiveNotices ⟨hosts, true⟩)
  change fun g => { g with tracker := g.tracker.receive ⟨hosts, true⟩ }

/-- Take in a topology change that nobody published. -/
def applyTopology (hosts : List HostSpec) : Act Event (Site W) Unit := do
  let g ← Act.read Site.gate
  log (g.tracker.receiveNotices ⟨hosts, false⟩)
  change fun g => { g with tracker := g.tracker.receive ⟨hosts, false⟩ }

end Site

end ClusterGate
