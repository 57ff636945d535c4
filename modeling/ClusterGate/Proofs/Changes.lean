import ClusterGate.Proofs.Dictionary
import ClusterGate.Tracker

/-!
# Changes of the host table

Whatever an operation does to the host table, it does by a few elementary changes: a topology comes
in, a host is registered, the outcome of a probe is written down, or zones are settled anew. This
module says what one such change does to a record, to the role of a host and to the order of the
table. What a whole history of changes does follows by induction from its end.
-/

namespace ClusterGate

/-- An elementary change of what is known about the cluster. -/
inductive Change
  /-- A new topology replaces the table. -/
  | topology (hosts : List HostSpec)
  /-- A host connected. -/
  | registered (host : String) (role : HostRole)
  /-- A write-forwarding probe of a host has ended. -/
  | probed (host : String) (enabled : Bool) (time : Nat)
  /-- Another zone is preferred. -/
  | preferred (zone : String)
  /-- The zones given host by host are replaced. -/
  | mapped (hosts : ZoneMap)
  | reresolved
  /-- It turned out whether a server has the features of the cluster engine. -/
  | featured (has : Bool)
  deriving DecidableEq, Repr

namespace Change

def isTopology : Change → Bool
  | topology _ => true
  | _ => false

/-- The change is what the driver tells: a topology that arrived, or the outcome of a probe. -/
def isReport : Change → Bool
  | topology _ | probed .. => true
  | _ => false

theorem isReport_of_isTopology {change : Change} (h : change.isTopology = true) :
    change.isReport = true := by
  cases change with
  | topology hosts => rfl
  | _ => cases h

/-- The role of a host after a change, from its role before. Only a topology changes the role of a
tracked host, and only a registration adds a host without one. -/
def roleAfter? (h : String) (before : Option HostRole) : Change → Option HostRole
  | topology hosts => (hosts.filter fun spec => spec.host = h).getLast?.map (·.role)
  | registered host role => before.or (if h = host then some role else none)
  | _ => before

end Change

/-! ## The entries of a host in a topology -/

/-- A host has a last entry exactly if it is listed. -/
theorem isSome_lastEntry_iff (hosts : List HostSpec) (h : String) :
    (hosts.filter fun spec => spec.host = h).getLast?.isSome ↔ h ∈ hosts.map (·.host) := by
  rw [List.getLast?_isSome]
  constructor
  · intro hne
    obtain ⟨spec, hspec⟩ := List.exists_mem_of_ne_nil _ hne
    obtain ⟨hmem, hhost⟩ := List.mem_filter.mp hspec
    exact List.mem_map.mpr ⟨spec, hmem, of_decide_eq_true hhost⟩
  · intro hmem
    obtain ⟨spec, hspec, rfl⟩ := List.mem_map.mp hmem
    exact List.ne_nil_of_mem (List.mem_filter.mpr ⟨hspec, decide_eq_true rfl⟩)

/-- The last entry for a host is one of the entries, and is about that host. -/
theorem mem_of_lastEntry {hosts : List HostSpec} {h : String} {spec : HostSpec}
    (hlast : (hosts.filter fun spec => spec.host = h).getLast? = some spec) :
    spec ∈ hosts ∧ spec.host = h := by
  have hmem := List.mem_filter.mp (List.mem_of_getLast? hlast)
  exact ⟨hmem.1, of_decide_eq_true hmem.2⟩

namespace Tracker

def apply (t : Tracker) : Change → Tracker
  | .topology hosts => t.applyTopology hosts
  | .registered host role => t.ensure host role
  | .probed host enabled time => t.settle host enabled time
  | .preferred zone => t.prefer zone
  | .mapped hosts => t.replaceHostMap hosts
  | .reresolved => t.reresolve
  | .featured has => { t with featureEngine := has }

def replay (t : Tracker) (past : List Change) : Tracker := past.foldl apply t

@[simp] theorem replay_nil (t : Tracker) : t.replay [] = t := rfl

@[simp] theorem replay_cons (t : Tracker) (first : Change) (rest : List Change) :
    t.replay (first :: rest) = (t.apply first).replay rest := rfl

@[simp] theorem replay_append (t : Tracker) (l r : List Change) :
    t.replay (l ++ r) = (t.replay l).replay r :=
  List.foldl_append

theorem replay_concat (t : Tracker) (past : List Change) (last : Change) :
    t.replay (past ++ [last]) = (t.replay past).apply last := by
  simp

/-- Taking in pushes is a history of topologies. -/
theorem receiveAll_eq_replay (t : Tracker) (pushes : List TopologyPush) :
    t.receiveAll pushes = t.replay (pushes.map fun push => .topology push.hosts) := by
  induction pushes generalizing t with
  | nil => rfl
  | cons push rest ih => exact ih (t.receive push)

@[simp] theorem receiveAll_append (t : Tracker) (l r : List TopologyPush) :
    t.receiveAll (l ++ r) = (t.receiveAll l).receiveAll r :=
  List.foldl_append

/-! ## Records -/

/-- The last entry of a host in a topology decides its record, against the table that is replaced.
-/
theorem record?_applyTopology (t : Tracker) (hosts : List HostSpec) (h : String) :
    (t.applyTopology hosts).record? h =
      (hosts.filter fun spec => spec.host = h).getLast?.map t.carried := by
  have hbuilt : (t.applyTopology hosts).record? h =
      ((hosts.map fun spec => (spec.host, t.carried spec)).filter fun e => e.1 = h).getLast?.map
        (·.2) := Dict.get?_ofList _ h
  rw [hbuilt, List.filter_map, List.getLast?_map, Option.map_map]
  rfl

theorem record?_reresolve (t : Tracker) (h : String) :
    t.reresolve.record? h = (t.record? h).map fun r => { r with zone := t.resolve h } :=
  Dict.get?_map _ t.hosts h

/-! ## Roles -/

def role? (t : Tracker) (h : String) : Option HostRole := (t.record? h).map (·.role)

@[simp] theorem role_carried (t : Tracker) (spec : HostSpec) :
    (t.carried spec).role = spec.role := by
  rw [carried]
  split
  · exact HostRecord.role_withRole _ _
  · rfl

/-- After a topology a host has the role of its last entry there. A host without an entry has none.
-/
theorem role?_applyTopology (t : Tracker) (hosts : List HostSpec) (h : String) :
    (t.applyTopology hosts).role? h =
      (hosts.filter fun spec => spec.host = h).getLast?.map (·.role) := by
  rw [role?, record?_applyTopology, Option.map_map]
  congr 1
  funext spec
  exact role_carried t spec

/-- A host that is in a new topology with its old role keeps its record. -/
theorem record?_applyTopology_of_role {t : Tracker} {hosts : List HostSpec} {h : String}
    {r : HostRecord} (hr : t.record? h = some r)
    (hrole : (t.applyTopology hosts).role? h = some r.role) :
    (t.applyTopology hosts).record? h = some r := by
  rw [role?_applyTopology] at hrole
  obtain ⟨spec, hlast, hspec⟩ := Option.map_eq_some_iff.mp hrole
  have hhost : spec.host = h := (mem_of_lastEntry hlast).2
  have hcarried : t.carried spec = r := by
    rw [carried, hhost, hr, hspec]
    exact if_pos rfl
  rw [record?_applyTopology, hlast, Option.map_some, hcarried]

/-- A host that is tracked keeps its role when it connects. -/
theorem role?_ensure (t : Tracker) (host : String) (role : HostRole) (h : String) :
    (t.ensure host role).role? h = (t.role? h).or (if h = host then some role else none) := by
  rw [role?, role?, record?_ensure]
  by_cases heq : h = host
  · subst heq
    cases hr : t.record? h <;> simp [recordOrFresh, freshRecord, HostRecord.fresh, hr]
  · simp [heq]

/-- The outcome of a probe changes no role. -/
theorem role?_settle (t : Tracker) (host : String) (enabled : Bool) (time : Nat) (h : String) :
    (t.settle host enabled time).role? h = t.role? h := by
  rw [role?, role?, record?_settle]
  by_cases heq : h = host
  · subst heq
    rw [if_pos rfl, Option.map_map]
    congr 1
    funext r
    show (if r.isWriter = true then r else r.recordProbe enabled time).role = r.role
    split <;> rfl
  · rw [if_neg heq]

theorem role?_reresolve (t : Tracker) (h : String) : t.reresolve.role? h = t.role? h := by
  rw [role?, role?, record?_reresolve, Option.map_map]
  rfl

/-- The role of a host after a change follows from the role before, and from nothing else of the
table. -/
theorem role?_apply (t : Tracker) (change : Change) (h : String) :
    (t.apply change).role? h = change.roleAfter? h (t.role? h) := by
  cases change with
  | topology hosts => exact role?_applyTopology t hosts h
  | registered host role => exact role?_ensure t host role h
  | probed host enabled time => exact role?_settle t host enabled time h
  | preferred zone => rfl
  | mapped hosts => rfl
  | reresolved => exact role?_reresolve t h
  | featured has => rfl

/-! ## Settings -/

/-- A connection touches the records only. -/
theorem ensure_eq (t : Tracker) (host : String) (role : HostRole) :
    t.ensure host role = { t with hosts := (t.ensure host role).hosts } := by
  rw [ensure]
  split <;> rfl

/-- So does the outcome of a probe. -/
theorem settle_eq (t : Tracker) (host : String) (enabled : Bool) (time : Nat) :
    t.settle host enabled time = { t with hosts := (t.settle host enabled time).hosts } := by
  rw [settle]
  split
  · split <;> rfl
  · rfl

/-- No change touches the check interval. -/
theorem interval_apply (t : Tracker) (change : Change) :
    (t.apply change).interval = t.interval := by
  cases change with
  | registered host role => rw [apply, ensure_eq]
  | probed host enabled time => rw [apply, settle_eq]
  | _ => rfl

@[simp] theorem interval_replay (t : Tracker) (past : List Change) :
    (t.replay past).interval = t.interval := by
  induction past generalizing t with
  | nil => rfl
  | cons change rest ih => rw [replay_cons, ih, interval_apply]

/-! ## Order -/

/-- Every record is stored under its own host, and the hosts increase strictly. -/
structure Sorted (t : Tracker) : Prop where
  ordered : t.hosts.WellOrdered
  own : ∀ h r, t.record? h = some r → r.host = h

theorem host_carried {t : Tracker} (ht : t.Sorted) (spec : HostSpec) :
    (t.carried spec).host = spec.host := by
  rw [carried]
  split
  · next old hold =>
    rw [HostRecord.host_withRole]
    exact ht.own spec.host old hold
  · rfl

theorem sorted_new (zones : ZoneSettings) (interval : Nat) : (new zones interval).Sorted :=
  ⟨Dict.wellOrdered_empty, fun _ _ hr => nomatch hr⟩

namespace Sorted

variable {t : Tracker}

theorem applyTopology (ht : t.Sorted) (hosts : List HostSpec) : (t.applyTopology hosts).Sorted := by
  refine ⟨Dict.wellOrdered_ofList _, fun h r hr => ?_⟩
  rw [record?_applyTopology] at hr
  obtain ⟨spec, hlast, rfl⟩ := Option.map_eq_some_iff.mp hr
  rw [host_carried ht]
  exact (mem_of_lastEntry hlast).2

theorem ensure (ht : t.Sorted) (host : String) (role : HostRole) : (t.ensure host role).Sorted := by
  constructor
  · rw [Tracker.ensure]
    split
    · exact ht.ordered
    · exact ht.ordered.insert host _
  · intro h r hr
    rw [record?_ensure] at hr
    split at hr
    · next heq =>
      subst heq
      cases hold : t.record? h with
      | none =>
        rw [recordOrFresh, hold] at hr
        cases hr
        rfl
      | some old =>
        rw [recordOrFresh, hold] at hr
        cases hr
        exact ht.own h _ hold
    · exact ht.own h r hr

theorem settle (ht : t.Sorted) (host : String) (enabled : Bool) (time : Nat) :
    (t.settle host enabled time).Sorted := by
  constructor
  · rw [Tracker.settle]
    split
    · split
      · exact ht.ordered
      · exact ht.ordered.insert host _
    · exact ht.ordered
  · intro h r hr
    rw [record?_settle] at hr
    split at hr
    · next heq =>
      subst heq
      obtain ⟨old, hold, rfl⟩ := Option.map_eq_some_iff.mp hr
      have hown := ht.own h old hold
      split
      · exact hown
      · exact hown
    · exact ht.own h r hr

theorem reresolve (ht : t.Sorted) : t.reresolve.Sorted := by
  refine ⟨ht.ordered.map _, fun h r hr => ?_⟩
  rw [record?_reresolve] at hr
  obtain ⟨old, hold, rfl⟩ := Option.map_eq_some_iff.mp hr
  exact ht.own h old hold

theorem apply (ht : t.Sorted) (change : Change) : (t.apply change).Sorted := by
  cases change with
  | topology hosts => exact ht.applyTopology hosts
  | registered host role => exact ht.ensure host role
  | probed host enabled time => exact ht.settle host enabled time
  | preferred zone => exact ⟨ht.ordered, ht.own⟩
  | mapped hosts => exact ⟨ht.ordered, ht.own⟩
  | reresolved => exact ht.reresolve
  | featured has => exact ⟨ht.ordered, ht.own⟩

theorem replay (ht : t.Sorted) (past : List Change) : (t.replay past).Sorted := by
  induction past generalizing t with
  | nil => exact ht
  | cons first rest ih => exact ih (ht.apply first)

/-- The records of the table are those that look-up finds. -/
theorem mem_records_iff (ht : t.Sorted) {r : HostRecord} :
    r ∈ t.records ↔ t.record? r.host = some r := by
  rw [records, Dict.mem_values_iff ht.ordered.nodup]
  constructor
  · rintro ⟨h, hr⟩
    rw [ht.own h r hr]
    exact hr
  · intro hr
    exact ⟨r.host, hr⟩

/-- The records are listed by increasing host. -/
theorem pairwise_records (ht : t.Sorted) : t.records.Pairwise (·.host < ·.host) := by
  have hkeys : t.records.map (·.host) = t.hosts.keys := by
    rw [records, Dict.values, Dict.keys, List.map_map]
    refine List.map_congr_left fun e he => ?_
    exact ht.own e.1 e.2 (Dict.get?_of_mem_entries ht.ordered.nodup he)
  have hordered := ht.ordered
  rw [Dict.WellOrdered, ← hkeys, List.pairwise_map] at hordered
  exact hordered

end Sorted

end Tracker

end ClusterGate
