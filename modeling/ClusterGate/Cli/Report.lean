import ClusterGate.Gate.Basic
import ClusterGate.Json

/-!
# Reports as JSON values
-/

namespace ClusterGate

def ZonePreference.json : ZonePreference → Json
  | .notConfigured => .ofMembers [("status", .str "not_configured")]
  | .preferred zone => .ofMembers [("status", .str "preferred"), ("az", .str zone)]
  | .notPreferred zone wanted =>
    .ofMembers [("status", .str "not_preferred"), ("az", .str zone), ("preferred", .str wanted)]
  | .unknown wanted => .ofMembers [("status", .str "unknown"), ("preferred", .str wanted)]

def HostSpec.json (spec : HostSpec) : Json :=
  .ofMembers [("host", .str spec.host), ("port", .int spec.port), ("role", .str spec.role.name)]

def Capabilities.json (c : Capabilities) : Json :=
  .ofMembers [("engine_name", .str c.engine), ("major_version", .int c.major),
    ("full_version", .str c.line), ("is_aurora_cluster", .bool c.cluster)]

/-- The record. The time of its probe is shown in the place of the time on the wall. -/
def HostRecord.json (r : HostRecord) : Json :=
  .ofMembers [("host", .str r.host), ("role", .str r.role.name),
    ("availability_zone", .ofText? r.zone), ("write_forwarding_enabled", .bool r.forwarding),
    ("last_probed_wall", r.probedAt.elim .null fun t => .int t)]

def QueryResult.json (r : QueryResult) : Json :=
  .ofMembers [("columns", .arr (r.columns.map .str)),
    ("rows", .arr (r.rows.map fun row => .arr (row.map .ofText?))), ("rowCount", .int r.rowCount)]

def ServerVersion.json (v : ServerVersion) : Json :=
  .ofMembers [("engineName", .str v.engine), ("majorVersion", .int v.major),
    ("fullVersion", .str v.line), ("targetEngine", .bool v.isTarget),
    ("meetsAuroraMinimum", .bool (featureVersion ≤ v.major))]

end ClusterGate
