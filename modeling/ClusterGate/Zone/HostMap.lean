import ClusterGate.Dict
import ClusterGate.Log
import ClusterGate.Text.Blank
import ClusterGate.Text.Split

/-!
# Availability zones given host by host

A host map is written `host:zone,host:zone,...`. Each pair is read on its own: only its first colon
separates, blank characters around host and zone mean nothing, and a pair that cannot be read is
passed over with a warning. Of two pairs for one host the later one counts.
-/

namespace ClusterGate

/-- The zones given host by host. -/
abbrev ZoneMap := Dict String String

namespace ZoneMap

/-- Why a pair was passed over. -/
inductive PairFault
  | noColon
  | emptySide
  deriving DecidableEq, Repr

def readPair (pair : List Char) : Except PairFault (String × String) :=
  match Text.cut? ':' (Text.trim pair) with
  | none => .error .noColon
  | some (host, zone) =>
    let host := Text.trim host
    let zone := Text.trim zone
    if host.isEmpty || zone.isEmpty then .error .emptySide
    else .ok (String.ofList host, String.ofList zone)

/-- The pairs of a text, as they stand. -/
def pairs (raw : String) : List (List Char) := Text.pieces ',' raw.toList

def parse (raw : String) : ZoneMap :=
  Dict.ofList ((pairs raw).filterMap fun p => (readPair p).toOption)

/-- The warning for a pair that was passed over. -/
def PairFault.notice (raw : String) (pair : List Char) (fault : PairFault) : LogEntry :=
  let fields := [("pair", .text (String.ofList pair)), ("map", .text raw)]
  match fault with
  | .noColon => Log.warn "Invalid host-AZ pair" fields
  | .emptySide => Log.warn "Empty host or AZ in pair" fields

/-- What reading a host map logs: a warning per pair passed over, then the size of the map unless it
is empty. -/
def parseNotices (raw : String) : List LogEntry :=
  ((pairs raw).filterMap fun p =>
    match readPair p with
    | .ok _ => none
    | .error fault => some (fault.notice raw p)) ++
  if (parse raw).isEmpty then []
  else [Log.info "Host-AZ map loaded" [("entries", .count (parse raw).size)]]

end ZoneMap

end ClusterGate
