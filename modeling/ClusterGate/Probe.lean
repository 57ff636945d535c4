import ClusterGate.Act
import ClusterGate.Tracker
import ClusterGate.Version

/-!
# Probing servers

Probes are queries that the library runs on its own account: for the version line, for the marker of
the cluster engine, and for write forwarding. While a probe runs the host table may change under it,
since every driver call takes in the topology changes that arrived with its answer.
-/

namespace ClusterGate

def versionQuery : String := "SELECT version()"

def markerQuery : String := "SELECT setting FROM pg_settings WHERE name = 'aurora_version'"

def forwardingQuery : String := "SHOW aurora_replica_write_forwarding"

/-- What is found out about a server once per connection. -/
structure Capabilities where
  engine : String
  major : Nat
  line : String
  /-- The server has a non-empty marker of the cluster engine. -/
  cluster : Bool
  deriving DecidableEq, Repr

namespace Capabilities

/-- Nothing is known: the server returned no version line. -/
def unknown : Capabilities := ⟨unknownEngine, 0, "", false⟩

def ofVersion (v : ServerVersion) (cluster : Bool) : Capabilities :=
  ⟨v.engine, v.major, v.line, cluster⟩

def isTarget (c : Capabilities) : Bool := c.engine == targetEngine

def isRecent (c : Capabilities) : Bool := featureVersion ≤ c.major

def hasFeatures (c : Capabilities) : Bool := c.isTarget && c.isRecent && c.cluster

/-- What is logged about a server when its version line has been read. -/
def notice (c : Capabilities) : LogEntry :=
  if c.hasFeatures then
    Log.info ("Connected to Aurora PostgreSQL " ++ toString featureVersion ++ " or higher")
      [("version", .text c.line)]
  else if c.isTarget && c.isRecent then
    Log.info ("Connected to PostgreSQL " ++ toString featureVersion ++ " or higher, but not Aurora")
      [("version", .text c.line)]
  else
    Log.debug "Connected to server below Aurora feature threshold"
      [("engine", .text c.engine), ("major_version", .count c.major)]

end Capabilities

/-- A server setting that means yes. -/
def isEnabledSetting (value : String) : Bool :=
  Text.sameIgnoringCase value "on" || Text.sameIgnoringCase value "true" || value == "1"

/-- The host table and the world around it. -/
structure Watch (W : Type) where
  tracker : Tracker
  world : W

namespace Watch

variable {W : Type}

def log (entries : List LogEntry) : Act Event (Watch W) Unit := Act.emit (entries.map .logged)

def track (f : Tracker → Tracker) : Act Event (Watch W) Unit :=
  Act.update fun s => { s with tracker := f s.tracker }

/-- Take in what a driver call brought back. -/
def takeIn {α : Type} (w : W) (answer : Answer α) :
    Act Event (Watch W) (Except DriverError α) := fun s =>
  -- Topologies that arrived during the call are taken in before anybody looks at its result.
  { value := answer.result
    state := ⟨s.tracker.receiveAll answer.pushes, w⟩
    events := (s.tracker.receiveAllNotices answer.pushes ++ answer.logs).map .logged }

variable (b : Backend W)

def call (origin : Origin) (id : ConnectionId) (request : Request) :
    Act Event (Watch W) (Except DriverError request.Value) := do
  Act.emit [.called id origin request]
  let (w, answer) ← Act.read fun s => b.call s.world id request
  takeIn w answer

def connect (id : ConnectionId) (protocol : String) (host : HostSpec) (props : Properties) :
    Act Event (Watch W) (Except DriverError Unit) := do
  Act.emit [.opened id protocol host]
  let (w, answer) ← Act.read fun s => b.connect s.world id protocol host props
  takeIn w answer

/-- Run a query on the library's own account. -/
def query (id : ConnectionId) (sql : String) :
    Act Event (Watch W) (Except DriverError QueryResult) :=
  call b .probe id (.executeQuery sql)

def url (id : ConnectionId) : Act Event (Watch W) String := Act.read fun s => b.url s.world id

def now : Act Event (Watch W) Nat := Act.read fun s => b.now s.world

/-- The server has a non-empty marker of the cluster engine. A failing query counts as none. -/
def probeMarker (id : ConnectionId) : Act Event (Watch W) Bool := do
  match ← query b id markerQuery with
  | .ok result => return result.firstValue?.any (!·.isEmpty)
  | .error e =>
    log [Log.warn "Aurora marker probe failed" [("error", .text e.message)]]
    return false

/-- The server forwards writes. A failing query counts as no. -/
def probeForwarding (id : ConnectionId) : Act Event (Watch W) Bool := do
  match ← query b id forwardingQuery with
  | .ok result => return result.firstValue?.any isEnabledSetting
  | .error e =>
    let url ← url b id
    log [Log.debug "Write forwarding probe failed" [("error", .text e.message), ("url", .text url)]]
    return false

/-- What a version line leads to: the marker is asked for only where the line names the engine. -/
def capabilitiesOf (id : ConnectionId) (line : String) : Act Event (Watch W) Capabilities := do
  log (ServerVersion.ofLineNotices line)
  let version := ServerVersion.ofLine line
  let cluster ← if version.isTarget then probeMarker b id else pure false
  let capabilities := Capabilities.ofVersion version cluster
  log [capabilities.notice]
  return capabilities

/-- Find out what a server is. Only a failing version query is an error. -/
def probeCapabilities (id : ConnectionId) :
    Act Event (Watch W) (Except DriverError Capabilities) := do
  match ← query b id versionQuery with
  | .error e => return .error e
  | .ok result =>
    match result.firstValue? with
    | none =>
      let url ← url b id
      log [Log.debug "Version query returned no row" [("url", .text url)]]
      return .ok .unknown
    | some line => return .ok (← capabilitiesOf b id line)

/-- Track a host that connects, and return its record. -/
def ensure (host : String) (role : HostRole) : Act Event (Watch W) HostRecord := do
  let t ← Act.read Watch.tracker
  log (t.ensureNotices host role)
  track (·.ensure host role)
  return t.recordOrFresh host role

/-- Write down the outcome of a probe, and return the record as it stands then. -/
def settle (host : String) (enabled : Bool) : Act Event (Watch W) (Option HostRecord) := do
  let time ← now b
  -- The table is read again here: the record that the probe began with may be out of date.
  let t ← Act.read Watch.tracker
  log (t.settleNotices host enabled)
  track (·.settle host enabled time)
  Act.read (·.tracker.record? host)

/-- Bring a host's record up to date, and return it as it stands then. A reader whose last probe is
not to be believed any more is probed on the given connection; it may be gone or promoted when the
answer comes. -/
def refresh (id : ConnectionId) (host : String) : Act Event (Watch W) (Option HostRecord) := do
  let t ← Act.read Watch.tracker
  match t.record? host with
  | none => return none
  | some snapshot =>
    if t.needsProbe snapshot (← now b) then
      let enabled ← probeForwarding b id
      settle b host enabled
    else
      return some snapshot

/-- Probe a connection that was just opened, and track its host. -/
def probeConnection (id : ConnectionId) (host : HostSpec) :
    Act Event (Watch W) (Except DriverError Capabilities) := do
  match ← probeCapabilities b id with
  | .error e => return .error e
  | .ok capabilities =>
    -- Of several connections the one that was probed last speaks for the cluster.
    track fun t => { t with featureEngine := capabilities.hasFeatures }
    let record ← ensure host.host host.role
    -- The role is the one in the table, which may differ from that of the entry.
    if !record.isWriter then
      let _ ← refresh b id host.host
    return .ok capabilities

end Watch

end ClusterGate
