import ClusterGate.Host
import ClusterGate.Zone.HostMap
import ClusterGate.Zone.Name

/-!
# Zone settings and what they say about hosts

The preferred zone is advice: it is compared with the zone of a host that is connected to, and with
the zones of the writers of a new topology, and the outcome is logged. It never chooses a host.
-/

namespace ClusterGate

/-- The preferred zone and the zones given host by host. -/
structure ZoneSettings where
  preferred : Option String
  hosts : ZoneMap
  deriving DecidableEq, Repr

/-- How the zone of a host compares with the preferred zone. -/
inductive ZonePreference
  | notConfigured
  | preferred (zone : String)
  | notPreferred (zone preferred : String)
  | unknown (preferred : String)
  deriving DecidableEq, Repr

/-- Whether a topology has a writer in the preferred zone. -/
inductive WriterAvailability
  | notConfigured
  | available (preferred : String) (hosts : List String)
  | unavailable (preferred : String)
  deriving DecidableEq, Repr

namespace ZoneSettings

def none : ZoneSettings := ⟨.none, ∅⟩

/-- The text, unless it holds nothing but blank characters. -/
def unlessBlank (s : String) : Option String :=
  if Text.allBlank s.toList then .none else some s

/-- The settings from a preferred zone and the text of a host map. A blank preferred zone is none;
one that is not blank is taken as it stands. -/
def ofText (preferred hostMap : Option String) : ZoneSettings where
  preferred := preferred.bind unlessBlank
  hosts := (hostMap.bind unlessBlank).elim ∅ ZoneMap.parse

def ofTextNotices (hostMap : Option String) : List LogEntry :=
  (hostMap.bind unlessBlank).elim [] ZoneMap.parseNotices

/-- The zone of a host: the one given for it, or else the one that its name shows. -/
def resolve (settings : ZoneSettings) (host : String) : Option String :=
  (settings.hosts.get? host).or (Zone.ofHostName host)

/-- The zone differs from the preferred one by more than ASCII case. -/
def changesPreferred (settings : ZoneSettings) (zone : String) : Bool :=
  match settings.preferred with
  | .none => true
  | some current => !Text.sameIgnoringCase current zone

/-- Prefer another zone. One that differs in ASCII case only leaves the settings as they are. -/
def prefer (settings : ZoneSettings) (zone : String) : ZoneSettings :=
  if settings.changesPreferred zone then { settings with preferred := some zone } else settings

def preferNotices (settings : ZoneSettings) (zone : String) : List LogEntry :=
  if settings.changesPreferred zone then
    [Log.info "Preferred AZ updated from connection properties"
      [("preferred_az", .text zone), ("previous", .text (settings.preferred.getD "none"))]]
  else []

def replaceHosts (settings : ZoneSettings) (hosts : ZoneMap) : ZoneSettings :=
  { settings with hosts }

def replaceHostsNotices (hosts : ZoneMap) : List LogEntry :=
  [Log.info "Host-AZ map replaced" [("entries", .count hosts.size)]]

/-- Compare a zone, if it is known, with the preferred one. -/
def preference (settings : ZoneSettings) (zone : Option String) : ZonePreference :=
  -- Without a preferred zone it makes no difference whether the zone is known.
  match settings.preferred, zone with
  | .none, _ => .notConfigured
  | some wanted, .none => .unknown wanted
  | some wanted, some zone =>
    if Text.sameIgnoringCase zone wanted then .preferred zone else .notPreferred zone wanted

/-- The entry is a writer whose zone is the wanted one. -/
def isPreferredWriter (settings : ZoneSettings) (wanted : String) (spec : HostSpec) : Bool :=
  spec.isWriter && (settings.resolve spec.host).any (Text.sameIgnoringCase · wanted)

def writerAvailability (settings : ZoneSettings) (hosts : List HostSpec) : WriterAvailability :=
  match settings.preferred with
  | .none => .notConfigured
  | some wanted =>
    -- Each entry counts by itself, also one that a later entry of the list overrides.
    match hosts.filter (settings.isPreferredWriter wanted) with
    | [] => .unavailable wanted
    | writers => .available wanted (writers.map (·.host))

end ZoneSettings

/-- What is logged about the zone of a host that is connected to. -/
def ZonePreference.notices (host : String) : ZonePreference → List LogEntry
  | .notConfigured => []
  | .preferred zone =>
    [Log.info "Connecting to host in preferred AZ" [("host", .text host), ("az", .text zone)]]
  | .notPreferred zone wanted =>
    [Log.info "Connecting to host outside the preferred AZ"
      [("host", .text host), ("az", .text zone), ("preferred_az", .text wanted)]]
  | .unknown wanted =>
    [Log.info "Connecting to host whose AZ cannot be determined"
      [("host", .text host), ("preferred_az", .text wanted)]]

/-- What is logged about the writers of a new topology. -/
def WriterAvailability.notices : WriterAvailability → List LogEntry
  | .notConfigured => []
  | .available wanted hosts =>
    [Log.info "Writer instances available in preferred AZ"
      [("preferred_az", .text wanted), ("hosts", .text (", ".intercalate hosts))]]
  | .unavailable wanted =>
    [Log.warn "No writer instance available in preferred AZ" [("preferred_az", .text wanted)]]

end ClusterGate
