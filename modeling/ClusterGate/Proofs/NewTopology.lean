import ClusterGate.Proofs.Changes
import Mathlib.Data.List.Nodup

/-!
# A new topology against the table that it replaces

A new topology decides alone which hosts are tracked and in which role, and the last entry of a host
is the one that counts. What is known about a host beyond its role is taken from the table that is
replaced, never from an earlier entry of the same list: the record stays as it is if the role is the
one that the table had, and forgets the probe if it is another one (`Tracker.topology_replaces`).
-/

namespace ClusterGate

/-! ## Records under a role -/

namespace HostRecord

variable {r : HostRecord} {role : HostRole}

theorem withRole_same (h : r.role = role) : r.withRole role = r := if_pos h

theorem withRole_changed (h : r.role ≠ role) :
    r.withRole role = { r with role, forwarding := false, probedAt := none } := if_neg h

/-- A record is kept as it is exactly if its role is kept. -/
theorem withRole_eq_self_iff : r.withRole role = r ↔ r.role = role := by
  constructor
  · intro h
    rw [← h, role_withRole]
  · exact withRole_same

end HostRecord

/-! ## The entries of a host -/

/-- Where no host is listed twice, every entry is the last one of its host. -/
theorem lastEntry_iff_of_nodup {hosts : List HostSpec} (hnodup : (hosts.map (·.host)).Nodup)
    {h : String} {spec : HostSpec} :
    (hosts.filter fun spec => spec.host = h).getLast? = some spec ↔
      spec ∈ hosts ∧ spec.host = h := by
  refine ⟨mem_of_lastEntry, fun ⟨hmem, hhost⟩ => ?_⟩
  have hlisted : h ∈ hosts.map (·.host) := List.mem_map.mpr ⟨spec, hmem, hhost⟩
  obtain ⟨last, hlast⟩ := Option.isSome_iff_exists.mp ((isSome_lastEntry_iff hosts h).mpr hlisted)
  obtain ⟨hlastMem, hlastHost⟩ := mem_of_lastEntry hlast
  rw [hlast, List.inj_on_of_nodup_map hnodup hlastMem hmem (hlastHost.trans hhost.symm)]

/-- Their order does not matter then. -/
theorem lastEntry_eq_of_perm {hosts hosts' : List HostSpec} (hperm : hosts.Perm hosts')
    (hnodup : (hosts.map (·.host)).Nodup) (h : String) :
    (hosts'.filter fun spec => spec.host = h).getLast? =
      (hosts.filter fun spec => spec.host = h).getLast? := by
  have hnodup' : (hosts'.map (·.host)).Nodup := (hperm.map _).nodup_iff.mp hnodup
  refine Option.ext fun spec => ?_
  rw [lastEntry_iff_of_nodup hnodup', lastEntry_iff_of_nodup hnodup, hperm.mem_iff]

namespace Tracker

/-! ## Tables -/

/-- Two tables made by topologies are the same if look-up finds the same. -/
theorem applyTopology_eq {t t' : Tracker} {hosts hosts' : List HostSpec}
    (hsettings : t = { t' with hosts := t.hosts })
    (h : ∀ h, (t.applyTopology hosts).record? h = (t'.applyTopology hosts').record? h) :
    t.applyTopology hosts = t'.applyTopology hosts' := by
  have hhosts : t.nextHosts hosts = t'.nextHosts hosts' :=
    (Dict.wellOrdered_ofList _).ext (Dict.wellOrdered_ofList _) h
  rw [applyTopology, applyTopology, hhosts, hsettings]

/-- The new table has the hosts of the topology and no others. -/
theorem mem_keys_applyTopology (t : Tracker) (hosts : List HostSpec) (h : String) :
    h ∈ (t.applyTopology hosts).hosts.keys ↔ h ∈ hosts.map (·.host) := by
  have hrecord := record?_applyTopology t hosts h
  rw [record?] at hrecord
  rw [Dict.mem_keys_iff, hrecord, Option.isSome_map, isSome_lastEntry_iff]

/-- Taking in a topology once more changes nothing. -/
theorem applyTopology_again (t : Tracker) (hosts : List HostSpec) :
    (t.applyTopology hosts).applyTopology hosts = t.applyTopology hosts := by
  refine applyTopology_eq rfl fun h => ?_
  cases hr : (t.applyTopology hosts).record? h with
  | none =>
    rw [record?_applyTopology, Option.map_eq_none_iff] at hr
    rw [record?_applyTopology, hr]
    rfl
  | some r =>
    -- The host has the role of its last entry already.
    have hrole : (t.applyTopology hosts).role? h = some r.role := by
      rw [role?, hr]
      rfl
    refine record?_applyTopology_of_role hr ?_
    rw [← hrole, role?_applyTopology, role?_applyTopology]

/-- The order of entries counts only between entries for one host. -/
theorem applyTopology_perm (t : Tracker) {hosts hosts' : List HostSpec} (hperm : hosts.Perm hosts')
    (hnodup : (hosts.map (·.host)).Nodup) : t.applyTopology hosts' = t.applyTopology hosts := by
  refine applyTopology_eq rfl fun h => ?_
  rw [record?_applyTopology, record?_applyTopology, lastEntry_eq_of_perm hperm hnodup]

/-- Whatever the table was, the hosts of a new topology are the tracked ones, each in the role of
its last entry. A host that was tracked keeps its zone, and keeps its record as it was exactly if it
has its old role again; otherwise the probe is forgotten. A host that was not tracked has its zone
resolved and was never probed. Nothing but the table changes. The same topology once more changes
nothing, and where no host is listed twice the order of the entries does not matter. -/
theorem topology_replaces (t : Tracker) (hosts : List HostSpec) :
    let next := t.applyTopology hosts
    (∀ h, h ∈ next.hosts.keys ↔ h ∈ hosts.map (·.host)) ∧
      (∀ h spec, (hosts.filter fun spec => spec.host = h).getLast? = some spec →
        ∃ r, next.record? h = some r ∧ r.role = spec.role ∧
          (∀ old, t.record? h = some old →
            r.zone = old.zone ∧ (r = old ↔ old.role = spec.role) ∧
              (old.role ≠ spec.role →
                r = { old with role := spec.role, forwarding := false, probedAt := none })) ∧
          (t.record? h = none →
            r = { host := h, role := spec.role, zone := t.resolve h, forwarding := false,
                  probedAt := none })) ∧
      next = { t with hosts := next.hosts } ∧ next.applyTopology hosts = next ∧
      ∀ hosts', hosts.Perm hosts' → (hosts.map (·.host)).Nodup → t.applyTopology hosts' = next := by
  intro next
  refine ⟨mem_keys_applyTopology t hosts, fun h spec hlast => ?_, rfl, applyTopology_again t hosts,
    fun hosts' hperm hnodup => t.applyTopology_perm hperm hnodup⟩
  obtain ⟨-, rfl⟩ := mem_of_lastEntry hlast
  refine ⟨t.carried spec, ?_, role_carried t spec, fun old hold => ?_, fun hnone => ?_⟩
  · show (t.applyTopology hosts).record? spec.host = _
    rw [record?_applyTopology, hlast, Option.map_some]
  · rw [carried, hold]
    exact ⟨HostRecord.zone_withRole old spec.role, HostRecord.withRole_eq_self_iff,
      HostRecord.withRole_changed⟩
  · rw [carried, hnone]
    rfl

/-- Two readers of which it is known that they forward writes. -/
def forwardingReaders : Tracker :=
  let known (host : String) : HostRecord := ⟨host, .reader, some "eu-west-1a", true, some 5⟩
  { new .none 60000000000 with
    hosts := ((∅ : Dict String HostRecord).insert "a" (known "a")).insert "b" (known "b") }

/-- The first reader is listed as a writer and then as a reader, and keeps its record. The second
one is promoted, which makes its probe forgotten. -/
theorem topology_replaces_promoted :
    let hosts : List HostSpec :=
      [⟨"a", 5432, .writer⟩, ⟨"b", 5432, .reader⟩, ⟨"b", 5433, .writer⟩, ⟨"a", 5433, .reader⟩]
    let next := forwardingReaders.applyTopology hosts
    next.record? "a" = some ⟨"a", .reader, some "eu-west-1a", true, some 5⟩ ∧
      next.record? "b" = some ⟨"b", .writer, some "eu-west-1a", false, none⟩ := by
  intro hosts next
  obtain ⟨-, hrecords, -⟩ := topology_replaces forwardingReaders hosts
  constructor
  · obtain ⟨r, hr, -, hkept, -⟩ := hrecords "a" ⟨"a", 5433, .reader⟩ (by decide)
    obtain ⟨-, hsame, -⟩ := hkept ⟨"a", .reader, some "eu-west-1a", true, some 5⟩ (by decide)
    rw [hr, hsame.mpr rfl]
  · obtain ⟨r, hr, -, hkept, -⟩ := hrecords "b" ⟨"b", 5433, .writer⟩ (by decide)
    obtain ⟨-, -, hreset⟩ := hkept ⟨"b", .reader, some "eu-west-1a", true, some 5⟩ (by decide)
    rw [hr, hreset (by decide)]

end Tracker

end ClusterGate
