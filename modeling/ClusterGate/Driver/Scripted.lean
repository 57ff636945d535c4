import ClusterGate.Probe

/-!
# A scripted cluster

A cluster whose hosts answer as laid down beforehand, to rehearse the library against. A host that
nothing is laid down for is a healthy server of the cluster engine without write forwarding. What is
laid down is looked up when a call is made, so it can be changed while connections are open.
-/

namespace ClusterGate

/-- What a scripted host answers to a statement. An answer of the wrong kind for a call counts as
none. -/
inductive Reply
  | fails (error : DriverError)
  | rows (result : QueryResult)
  | flag (value : Bool)
  | number (value : Int)
  deriving DecidableEq, Repr

structure Behaviour where
  connectFault : Option DriverError
  replies : Dict String Reply
  commitFault : Option DriverError
  rollbackFault : Option DriverError
  autoCommitFault : Option DriverError
  closeFault : Option DriverError
  /-- The topology that arrives whenever the host is asked about write forwarding. -/
  duringProbe : Option (List HostSpec)
  deriving DecidableEq, Repr

namespace Behaviour

/-- Nothing is laid down. -/
def healthy : Behaviour := ⟨none, ∅, none, none, none, none, none⟩

instance : Inhabited Behaviour := ⟨healthy⟩

/-- The answer of a call that fails as laid down. -/
def unlessFault {α : Type} (fault : Option DriverError) (value : α) : Except DriverError α :=
  match fault with
  | some e => .error e
  | none => .ok value

/-- What a query answers where nothing is laid down. -/
def defaultRows (host sql : String) : QueryResult :=
  .singleColumn "result"
    [some <|
      if sql = versionQuery then "PostgreSQL 17.4 on x86_64-pc-linux-gnu, compiled by gcc, 64-bit"
      else if sql = markerQuery then "17.4.0"
      else if sql = forwardingQuery then "off"
      else host ++ ":" ++ sql]

/-- What a call answers on an open connection. -/
def answer (host : String) (b : Behaviour) : (r : Request) → Except DriverError r.Value
  | .execute sql =>
    match b.replies.get? sql with
    | some (.fails e) => .error e
    | some (.flag value) => .ok value
    | _ => .ok ("SELECT".isPrefixOf sql)
  | .executeQuery sql =>
    match b.replies.get? sql with
    | some (.fails e) => .error e
    | some (.rows result) => .ok result
    | _ => .ok (defaultRows host sql)
  | .executeUpdate sql | .executeLargeUpdate sql =>
    match b.replies.get? sql with
    | some (.fails e) => .error e
    | some (.number value) => .ok value
    | _ => .ok (1 : Int)
  | .commit => unlessFault b.commitFault ()
  | .rollback => unlessFault b.rollbackFault ()
  | .setAutoCommit _ => unlessFault b.autoCommitFault ()
  | .close => unlessFault b.closeFault ()
  | .isValid => .ok true

/-- What a call answers on a connection that was closed: only closing again is answered as before.
-/
def answerClosed (host : String) (b : Behaviour) : (r : Request) → Except DriverError r.Value
  | .close => b.answer host .close
  | .isValid => .ok false
  | .execute _ | .executeQuery _ | .executeUpdate _ | .executeLargeUpdate _ => .error .closed
  | .commit | .rollback | .setAutoCommit _ => .error .closed

end Behaviour

structure ScriptedLink where
  host : String
  url : String
  closed : Bool
  deriving DecidableEq, Repr

/-- A scripted cluster with the connections to it. -/
structure ScriptedCluster where
  behaviours : Dict String Behaviour
  links : Dict ConnectionId ScriptedLink
  /-- The topology changes that arrive during a call are published ones. -/
  announces : Bool
  clock : Nat
  deriving DecidableEq, Repr

namespace ScriptedCluster

def behaviour (w : ScriptedCluster) (host : String) : Behaviour :=
  (w.behaviours.get? host).getD .healthy

def layDown (w : ScriptedCluster) (host : String) (b : Behaviour) : ScriptedCluster :=
  { w with behaviours := w.behaviours.insert host b }

def tick (w : ScriptedCluster) (nanos : Nat) : ScriptedCluster :=
  { w with clock := w.clock + nanos }

/-- Add a connection without opening it through the driver. -/
def link (w : ScriptedCluster) (id : ConnectionId) (host url : String) : ScriptedCluster :=
  { w with links := w.links.insert id ⟨host, url, false⟩ }

def hostOf (w : ScriptedCluster) (id : ConnectionId) : String :=
  ((w.links.get? id).map (·.host)).getD ""

/-- The topology changes that arrive while a call runs on a host. -/
def pushes (w : ScriptedCluster) (host : String) (r : Request) : List TopologyPush :=
  -- Topologies are laid down for the query for write forwarding alone.
  if r = .executeQuery forwardingQuery then
    ((w.behaviour host).duringProbe.map fun hosts => ⟨hosts, w.announces⟩).toList
  else []

def connect (w : ScriptedCluster) (id : ConnectionId) (protocol : String) (host : HostSpec) :
    ScriptedCluster × Answer Unit :=
  match (w.behaviour host.host).connectFault with
  | some e => (w, .of (.error e))
  | none => (w.link id host.host (protocol ++ "//" ++ host.text ++ "/postgres"), .of (.ok ()))

def call (w : ScriptedCluster) (id : ConnectionId) (r : Request) :
    ScriptedCluster × Answer r.Value :=
  match w.links.get? id with
  | none => (w, .of (.error .closed))
  | some l =>
    let b := w.behaviour l.host
    let result := if l.closed then b.answerClosed l.host r else b.answer l.host r
    let w' :=
      if r = .close then { w with links := w.links.insert id { l with closed := true } } else w
    (w', ⟨result, w.pushes l.host r, []⟩)

def backend : Backend ScriptedCluster where
  connect w id protocol host _ := w.connect id protocol host
  call w id r := w.call id r
  url w id := ((w.links.get? id).map (·.url)).getD ""
  now w := w.clock

end ScriptedCluster

end ClusterGate
