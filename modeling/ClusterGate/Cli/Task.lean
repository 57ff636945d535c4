import ClusterGate.Cli.Invocation
import ClusterGate.Cli.Report
import ClusterGate.Config.Document
import ClusterGate.Gate.Connect
import ClusterGate.Postgres.Link
import ClusterGate.Postgres.Provider

/-!
# Carrying out a task

A task ends in a JSON value, or in a failure with one line of text. Tasks that connect make a gate
for one connection, and release the connection before they end.
-/

namespace ClusterGate.Cli

inductive Failure
  | config (path : String)
  | protocol (name : String)
  | listing (error : ListingError)
  | noHost
  /-- The database URL cannot be read. -/
  | url
  | connect (host : HostSpec)
  | call (error : CallError)
  deriving DecidableEq, Repr

def Failure.message : Failure → String
  | .config path => "Failed to load config from " ++ path
  | .protocol name => Provider.targetName ++ " does not accept protocol " ++ name
  | .listing error => error.message
  | .noHost => "either --host or --topology is required"
  | .url => "Invalid database URL: "
  | .connect host => "Failed to connect to " ++ host.text
  | .call error => error.message

/-! ### Tasks without a connection -/

/-- The zone settings of a configuration, where options take the place of its settings. -/
def zoneConfig (config : Config) (hostMap preferred : Option String) : Config :=
  { config with
    hostAzMap := hostMap.or config.hostAzMap, preferredAz := preferred.or config.preferredAz }

/-- The zone of a host, and how it compares with the preferred one. -/
def zoneReport (config : Config) (host : String) : Json :=
  let zone := config.zones.resolve host
  .ofMembers [("host", .str host), ("availabilityZone", .ofText? zone),
    ("heuristic", .ofText? (Zone.ofHostName host)),
    ("preference", (config.zones.preference zone).json)]

def zoneReportNotices (config : Config) (host : String) : List LogEntry :=
  config.zonesNotices ++ (config.zones.preference (config.zones.resolve host)).notices host

/-! ### Tasks with a connection -/

section
variable {S : Type} (server : Postgres.Server S)

/-- The gate of a task and the servers behind it. -/
abbrev Work (S : Type) := Site (Postgres.Links S)

/-- Publish the topology of a destination, if it has one. -/
def publish (topology : Option String) : Act Event (Work S) (Except Failure (List HostSpec)) := do
  match topology with
  | none => return .ok []
  | some raw => return (← Site.seed (Listing.parse raw)).mapError .listing

/-- The strategy that hosts of a topology are chosen by. -/
def strategy : String := "first"

/-- The host to open: the one that is named, or else one of the topology in the wanted role. -/
def selectHost (d : Destination) (topology : List HostSpec) : Option HostSpec :=
  match d.host with
  | some host => some ⟨host, d.port, d.role⟩
  | none => Provider.choose topology d.role

def selectHostNotices (d : Destination) (topology : List HostSpec) : List LogEntry :=
  if d.host.isSome then [] else Provider.chooseNotices topology d.role strategy

/-- Open the connection of a task. -/
def reach (d : Destination) :
    Act Event (Work S) (Except Failure (Backend (Postgres.Links S) × Connection)) := do
  match ← publish d.topology with
  | .error e => return .error e
  | .ok topology =>
    Site.log (selectHostNotices d topology)
    -- A missing host is told before a URL that cannot be read.
    match selectHost d topology, Postgres.Target.ofUrl? d.databaseUrl with
    | none, _ => return .error .noHost
    | some _, none => return .error .url
    | some host, some target =>
      let backend := Postgres.Links.backend server target
      match ← Site.connect backend d.protocol host ∅ with
      | .error _ => return .error (.connect host)
      | .ok connection => return .ok (backend, connection)

/-- What the probes of a connection found. -/
def probed (connection : Connection) : Act Event (Work S) Json := do
  let g ← Act.read Site.gate
  return .ofMembers [("connectionId", .str ("conn-" ++ toString connection.id.number)),
    ("host", connection.host.json), ("capabilities", connection.capabilities.json),
    ("auroraV17OrHigher", .bool g.hasFeatures),
    ("record", (g.tracker.record? connection.host.host).elim .null HostRecord.json)]

def strictCommand (config : Config) : String :=
  Command.statement config.commandNamespace (Command.modeValue true)

/-- Run a statement for its rows, if it is one that returns rows, or else for its count. -/
def runStatement (b : Backend (Postgres.Links S)) (connection : Connection) (sql : String) :
    Act Event (Work S) (Except CallError Json) := do
  if Postgres.returnsRows sql then
    return (← Site.callConnection b connection (.executeQuery sql)).map QueryResult.json
  else
    return (← Site.callConnection b connection (.executeLargeUpdate sql)).map fun n =>
      .ofMembers [("rowsAffected", .int n)]

/-- Turn strict-writer mode on, if it is wanted, and run a statement. -/
def execute (b : Backend (Postgres.Links S)) (config : Config) (strict : Bool) (sql : String)
    (connection : Connection) : Act Event (Work S) (Except CallError Json) := do
  -- The command is a statement like any other: whether it is consumed is up to the gate.
  let ready ← if strict then
      Site.callConnection b connection (.execute (strictCommand config))
    else pure (.ok false)
  match ready with
  | .error e => return .error e
  | .ok _ =>
    Site.log [Log.info "Executing statement"
      [("host", .text connection.host.text), ("strict_writer", .flag strict)]]
    runStatement b connection sql

/-- Close a connection after what was done with it, unless that failed. -/
def closing (b : Backend (Postgres.Links S)) (connection : Connection)
    (work : Act Event (Work S) (Except CallError Json)) :
    Act Event (Work S) (Except CallError Json) := do
  match ← work with
  | .error e => return .error e
  | .ok output => return (← Site.callConnection b connection .close).map fun _ => output

/-- Open a connection, work on it, close it and release it. -/
def onConnection (d : Destination)
    (work : Backend (Postgres.Links S) → Connection → Act Event (Work S) (Except CallError Json)) :
    Act Event (Work S) (Except Failure Json) := do
  match ← reach server d with
  | .error e => return .error e
  | .ok (b, connection) =>
    let result ← closing b connection (work b connection)
    Site.release connection
    return result.mapError .call

/-- What a task came to, what it logged, and the servers afterwards. -/
structure Done (S : Type) where
  result : Except Failure Json
  logs : List LogEntry
  servers : Postgres.Links S

/-- Carry out a task that connects, on a gate of its own. -/
def onGate (config : Config) (d : Destination) (servers : Postgres.Links S)
    (work : Act Event (Work S) (Except Failure Json)) : Done S :=
  -- The protocol is looked at before the configuration.
  if !Provider.acceptsProtocol d.protocol then ⟨.error (.protocol d.protocol), [], servers⟩
  else
    match Gate.ofConfig config with
    | .error e => ⟨.error (.call e), Gate.ofConfigNotices config, servers⟩
    | .ok gate =>
      let step := work ⟨gate, servers⟩
      ⟨step.value, Gate.ofConfigNotices config ++ Event.logs step.events, step.state.world⟩

/-- Carry out a task. -/
def Task.run (config : Config) (servers : Postgres.Links S) : Task → Done S
  | .resolveZone host hostMap preferred =>
    let config := zoneConfig config hostMap preferred
    ⟨.ok (zoneReport config host), zoneReportNotices config host, servers⟩
  | .parseVersion line =>
    ⟨.ok (ServerVersion.ofLine line).json, ServerVersion.ofLineNotices line, servers⟩
  | .probe d =>
    onGate config d servers (onConnection server d fun _ connection => .ok <$> probed connection)
  | .exec d strict sql =>
    onGate config d servers (onConnection server d fun b => execute b config strict sql)

/-- Carry out what a command line asks for. `file` holds the bytes of the configuration file, if it
can be read. -/
def Invocation.run (i : Invocation) (file : Option ByteArray) (servers : Postgres.Links S) :
    Done S :=
  match i.config with
  | none => i.task.run server .default servers
  | some path =>
    match Config.ofFile file with
    | .error _ => ⟨.error (.config path), [], servers⟩
    | .ok config => i.task.run server config servers

end

end ClusterGate.Cli
