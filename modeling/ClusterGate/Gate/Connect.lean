import ClusterGate.Gate.Intercept
import ClusterGate.Host.Listing

/-!
# Opening and releasing connections

Opening a connection probes its server once and tracks its host. Zone properties given with it
replace the zone settings of the gate. A connection whose version query fails is closed again and
leaves nothing behind but those settings.
-/

namespace ClusterGate.Site

variable {W : Type} (b : Backend W)

def prefer (zone : String) : Act Event (Site W) Unit := do
  let g ← Act.read Site.gate
  log (g.tracker.zones.preferNotices zone)
  change fun g => { g with tracker := g.tracker.prefer zone }

/-- Take over the text of a host map, and resolve every zone anew. -/
def replaceHostMap (raw : String) : Act Event (Site W) Unit := do
  log (ZoneMap.parseNotices raw)
  log (ZoneSettings.replaceHostsNotices (ZoneMap.parse raw))
  -- Here the zones in the table change with the settings.
  change fun g => { g with tracker := (g.tracker.replaceHostMap (ZoneMap.parse raw)).reresolve }

/-- Take over the zone properties of a connection that is being opened. -/
def applyProperties (props : Properties) : Act Event (Site W) Unit := do
  if let some zone := props.effective? Properties.preferredAz then prefer zone
  if let some raw := props.effective? Properties.hostAzMap then replaceHostMap raw

/-- Begin the lifetime of a connection. -/
def mint : Act Event (Site W) ConnectionId := do
  let id ← Act.read fun s => ConnectionId.mk s.gate.minted
  change fun g => { g with minted := g.minted + 1 }
  return id

/-- Give up a connection whose version query failed. -/
def abandon (id : ConnectionId) (host : HostSpec) (source : DriverError) :
    Act Event (Site W) Unit := do
  clearAttributes id
  match ← watching (Watch.call b .probe id .close) with
  | .ok () => pure ()
  | .error e =>
    log [Log.warn "Failed to close connection after probe failure"
      [("host", .text host.text), ("error", .text e.message)]]
  log [Log.error "Version probe failed, connect aborted"
    [("host", .text host.text), ("error", .text source.message)]]

/-- Hand out a connection that was opened and probed. The zone that its record shows is compared
with the preferred zone. -/
def handOut (connection : Connection) : Act Event (Site W) Unit := do
  let host := connection.host
  let t ← Act.read (·.gate.tracker)
  -- The record is that of the table now, and may be gone.
  log ((t.zones.preference ((t.record? host.host).bind (·.zone))).notices host.host)
  change fun g => { g with handles := g.handles ++ [connection] }
  let url ← watching (Watch.url b connection.id)
  log [Log.info "Connection opened"
    [("host", .text host.text), ("role", .text host.role.text), ("url", .text url)]]

def connect (protocol : String) (host : HostSpec) (props : Properties) :
    Act Event (Site W) (Except CallError Connection) := do
  -- The properties count also when the connect fails.
  applyProperties props
  let id ← mint
  match ← watching (Watch.connect b id protocol host props) with
  | .error source =>
    clearAttributes id
    return .error (.connectFailed host.host source)
  | .ok () =>
    match ← watching (Watch.probeConnection b id host) with
    | .error source =>
      abandon b id host source
      return .error (.connectFailed host.host source)
    | .ok capabilities =>
      let connection := { id, host, capabilities }
      handOut b connection
      return .ok connection

/-- Release a connection handle: its session attributes go, and orphans are swept away while the
handle itself still counts as held. -/
def release (connection : Connection) : Act Event (Site W) Unit := do
  clearAttributes connection.id
  let _ ← purge
  change fun g => { g with handles := g.handles.filter (·.id ≠ connection.id) }

/-- Take in the topology that a source of host lists gives, and return it. -/
def seed (source : Except ListingError (List HostSpec)) :
    Act Event (Site W) (Except ListingError (List HostSpec)) := do
  match source with
  | .error e => return .error e
  | .ok hosts =>
    announce hosts
    return .ok hosts

end ClusterGate.Site
