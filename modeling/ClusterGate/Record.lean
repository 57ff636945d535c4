import ClusterGate.Host

/-!
# What is known about one host

A record holds a host's role and zone, and the outcome and time of the last write-forwarding probe.
The outcome describes a reader: a change of role forgets it.

The time is that of the clock by which probes go stale. When the same probe was made by the clock on
the wall is left out: nothing is decided by it, and a report shows the time that is kept in its
place.
-/

namespace ClusterGate

/-- What is known about one host. -/
structure HostRecord where
  host : String
  role : HostRole
  zone : Option String
  /-- Writes to this reader are forwarded to the writer. -/
  forwarding : Bool
  /-- When write forwarding was last probed, in nanoseconds. -/
  probedAt : Option Nat
  deriving DecidableEq, Repr

namespace HostRecord

/-- A host seen for the first time. -/
def fresh (host : String) (role : HostRole) (zone : Option String) : HostRecord :=
  ⟨host, role, zone, false, none⟩

def isWriter (r : HostRecord) : Bool := r.role = .writer

/-- The outcome of the last probe is older than `interval`, or there was no probe. A probe in the
future is not old. -/
def isStale (r : HostRecord) (now interval : Nat) : Bool :=
  match r.probedAt with
  | none => true
  | some time => now - time > interval

def recordProbe (r : HostRecord) (enabled : Bool) (time : Nat) : HostRecord :=
  { r with forwarding := enabled, probedAt := some time }

/-- The record under a new topology. A change of role forgets the probe. -/
def withRole (r : HostRecord) (role : HostRole) : HostRecord :=
  if r.role = role then r else { r with role, forwarding := false, probedAt := none }

/-- A connection in strict-writer mode may run statements on this host. -/
def acceptsWrites (r : HostRecord) : Bool := r.isWriter || r.forwarding

@[simp] theorem role_withRole (r : HostRecord) (role : HostRole) :
    (r.withRole role).role = role := by
  rw [withRole]; split <;> simp_all

@[simp] theorem host_withRole (r : HostRecord) (role : HostRole) :
    (r.withRole role).host = r.host := by
  rw [withRole]; split <;> rfl

@[simp] theorem zone_withRole (r : HostRecord) (role : HostRole) :
    (r.withRole role).zone = r.zone := by
  rw [withRole]; split <;> rfl

end HostRecord

end ClusterGate
