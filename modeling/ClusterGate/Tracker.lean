import ClusterGate.Driver
import ClusterGate.Record

/-!
# The host table

The tracker holds a record for every host it knows. A new topology replaces the table as a whole:
hosts that stay keep their zone, and what was probed about them unless their role changes. A
connection adds its host when the topology does not have it.

This module holds the changes themselves; probing a server, which takes time, is in
`ClusterGate.Probe`.
-/

namespace ClusterGate

/-- What is known about the cluster. -/
structure Tracker where
  zones : ZoneSettings
  /-- For how many nanoseconds the outcome of a write-forwarding probe is believed. -/
  interval : Nat
  hosts : Dict String HostRecord
  /-- The connection probed last reached a server with the features of the cluster engine. -/
  featureEngine : Bool
  deriving DecidableEq, Repr

namespace Tracker

def new (zones : ZoneSettings) (interval : Nat) : Tracker := ⟨zones, interval, ∅, false⟩

def ofConfig (config : Config) : Tracker := new config.zones config.intervalNanos

def record? (t : Tracker) (host : String) : Option HostRecord := t.hosts.get? host

/-- Every record, by increasing host. -/
def records (t : Tracker) : List HostRecord := t.hosts.values

def resolve (t : Tracker) (host : String) : Option String := t.zones.resolve host

/-! ### Hosts that connect -/

/-- The record that a host would start with. -/
def freshRecord (t : Tracker) (host : String) (role : HostRole) : HostRecord :=
  .fresh host role (t.resolve host)

/-- The record of a host, or the one that it would start with in this role. -/
def recordOrFresh (t : Tracker) (host : String) (role : HostRole) : HostRecord :=
  (t.record? host).getD (t.freshRecord host role)

/-- Track a host. One that is tracked already keeps its record, whatever role it is seen in. -/
def ensure (t : Tracker) (host : String) (role : HostRole) : Tracker :=
  match t.record? host with
  | some _ => t
  | none => { t with hosts := t.hosts.insert host (t.freshRecord host role) }

def ensureNotices (t : Tracker) (host : String) (role : HostRole) : List LogEntry :=
  match t.record? host with
  | some _ => []
  | none =>
    [Log.debug "Tracking new host"
      [("host", .text host), ("role", .text role.text),
        ("az", .text ((t.resolve host).getD "unknown"))]]

/-! ### Topology changes -/

/-- The record of an entry of a new topology, against the table that it replaces. -/
def carried (t : Tracker) (spec : HostSpec) : HostRecord :=
  -- A host that stays keeps its zone, and its probe as long as it keeps its role.
  match t.record? spec.host with
  | some old => old.withRole spec.role
  | none => t.freshRecord spec.host spec.role

/-- The table of a new topology. Of two entries for one host the later one counts. -/
def nextHosts (t : Tracker) (hosts : List HostSpec) : Dict String HostRecord :=
  .ofList (hosts.map fun spec => (spec.host, t.carried spec))

/-- Replace the table by that of a new topology. -/
def applyTopology (t : Tracker) (hosts : List HostSpec) : Tracker :=
  { t with hosts := t.nextHosts hosts }

/-- The tracked hosts that a new topology drops. -/
def removed (t : Tracker) (hosts : List HostSpec) : List String :=
  t.hosts.keys.filter fun h => !(t.nextHosts hosts).contains h

/-- The entry gives a tracked host another role. -/
def roleChangeNotices (t : Tracker) (spec : HostSpec) : List LogEntry :=
  -- The comparison is with the old table, also where the list has the host twice.
  match t.record? spec.host with
  | some old =>
    if old.role = spec.role then []
    else [Log.info "Host role changed"
      [("host", .text spec.host), ("from", .text old.role.text), ("to", .text spec.role.text)]]
  | none => []

def applyTopologyNotices (t : Tracker) (hosts : List HostSpec) : List LogEntry :=
  hosts.flatMap t.roleChangeNotices ++
    [Log.info "Topology updated"
      [("hosts", .text (", ".intercalate (t.nextHosts hosts).keys)),
        ("removed", .count (t.removed hosts).length)]]

/-- What is said about the writers in the preferred zone when a topology is published. -/
def announceNotices (t : Tracker) (hosts : List HostSpec) : List LogEntry :=
  (t.zones.writerAvailability hosts).notices

def receive (t : Tracker) (push : TopologyPush) : Tracker := t.applyTopology push.hosts

def receiveNotices (t : Tracker) (push : TopologyPush) : List LogEntry :=
  t.applyTopologyNotices push.hosts ++ if push.announced then t.announceNotices push.hosts else []

def receiveAll (t : Tracker) (pushes : List TopologyPush) : Tracker := pushes.foldl receive t

def receiveAllNotices (t : Tracker) : List TopologyPush → List LogEntry
  | [] => []
  | push :: rest => t.receiveNotices push ++ receiveAllNotices (t.receive push) rest

/-! ### Zones -/

/-- Resolve the zone of every host anew. -/
def reresolve (t : Tracker) : Tracker :=
  { t with hosts := t.hosts.map fun host r => { r with zone := t.resolve host } }

def prefer (t : Tracker) (zone : String) : Tracker := { t with zones := t.zones.prefer zone }

/-- Replace the zones given host by host. The zones in the table stay as they are. -/
def replaceHostMap (t : Tracker) (hosts : ZoneMap) : Tracker :=
  { t with zones := t.zones.replaceHosts hosts }

/-! ### Probes -/

/-- The outcome of the last probe of this host is not to be believed any more. -/
def needsProbe (t : Tracker) (r : HostRecord) (now : Nat) : Bool :=
  !r.isWriter && r.isStale now t.interval

/-- Write down the outcome of a probe. It is written only for a host that is tracked as a reader
now, whatever it was when the probe began. -/
def settle (t : Tracker) (host : String) (enabled : Bool) (time : Nat) : Tracker :=
  match t.record? host with
  | some r =>
    if r.isWriter then t
    else { t with hosts := t.hosts.insert host (r.recordProbe enabled time) }
  | none => t

def settleNotices (t : Tracker) (host : String) (enabled : Bool) : List LogEntry :=
  match t.record? host with
  | some r =>
    if !r.isWriter && enabled != r.forwarding then
      [Log.info "Write forwarding status changed"
        [("host", .text host), ("enabled", .flag enabled)]]
    else []
  | none => []

/-! ### What the changes keep -/

@[simp] theorem zones_applyTopology (t : Tracker) (hosts : List HostSpec) :
    (t.applyTopology hosts).zones = t.zones := rfl

@[simp] theorem receiveAll_nil (t : Tracker) : t.receiveAll [] = t := rfl

@[simp] theorem receiveAll_cons (t : Tracker) (push : TopologyPush) (rest : List TopologyPush) :
    t.receiveAll (push :: rest) = (t.receive push).receiveAll rest := rfl

@[simp] theorem interval_receiveAll (t : Tracker) (pushes : List TopologyPush) :
    (t.receiveAll pushes).interval = t.interval := by
  induction pushes generalizing t with
  | nil => rfl
  | cons push rest ih => rw [receiveAll_cons, ih]; rfl

@[simp] theorem featureEngine_receiveAll (t : Tracker) (pushes : List TopologyPush) :
    (t.receiveAll pushes).featureEngine = t.featureEngine := by
  induction pushes generalizing t with
  | nil => rfl
  | cons push rest ih => rw [receiveAll_cons, ih]; rfl

theorem record?_ensure (t : Tracker) (host : String) (role : HostRole) (h : String) :
    (t.ensure host role).record? h =
      if h = host then some (t.recordOrFresh host role) else t.record? h := by
  rw [ensure, recordOrFresh]
  split
  · rename_i r hr
    split
    · rename_i he; subst he; simp [hr]
    · rfl
  · rename_i hr
    simp only [record?, Dict.get?_insert] at hr ⊢
    simp [hr]

theorem record?_settle (t : Tracker) (host : String) (enabled : Bool) (time : Nat) (h : String) :
    (t.settle host enabled time).record? h =
      if h = host then
        (t.record? host).map fun r => if r.isWriter then r else r.recordProbe enabled time
      else t.record? h := by
  rw [settle]
  split
  · rename_i r hr
    split
    · rename_i hw
      split
      · rename_i he; subst he; simp [hr, hw]
      · rfl
    · rename_i hw
      simp only [record?, Dict.get?_insert] at hr ⊢
      simp [hr, hw]
  · rename_i hr
    split
    · rename_i he; subst he; simp [hr]
    · rfl

end Tracker

end ClusterGate
