import ClusterGate.Proofs.Changes

/-!
# What is known of a host apart from its zone

Zones are settled by the zone settings, and decide nothing but what is logged. Everything else that
is known of a host, its `sight`, changes with that host alone (`Tracker.sight_apply`): a change of
the host table leaves it as it is unless it is a topology, or a registration or a probe of this very
host.
-/

namespace ClusterGate

/-! ## Records -/

namespace HostRecord

/-- The record without its zone. -/
def unplaced (r : HostRecord) : HostRecord := { r with zone := none }

@[simp] theorem unplaced_fresh (host : String) (role : HostRole) (zone : Option String) :
    (fresh host role zone).unplaced = fresh host role none := rfl

@[simp] theorem isWriter_unplaced (r : HostRecord) : r.unplaced.isWriter = r.isWriter := rfl

theorem unplaced_withRole (r : HostRecord) (role : HostRole) :
    (r.withRole role).unplaced = r.unplaced.withRole role := by
  rw [withRole, withRole]
  split
  · next hsame => exact (if_pos hsame).symm
  · next hother => exact (if_neg hother).symm

end HostRecord

/-! ## Changes -/

/-- What is known of a host after a change, apart from its zone, from what was known before. -/
def Change.sightAfter (h : String) (before : Option HostRecord) : Change → Option HostRecord
  | topology hosts =>
    (hosts.filter fun spec => spec.host = h).getLast?.map fun spec =>
      (before.map (·.withRole spec.role)).getD (.fresh h spec.role none)
  | registered host role => if h = host then some (before.getD (.fresh h role none)) else before
  | probed host enabled time =>
    if h = host then before.map fun r => if r.isWriter then r else r.recordProbe enabled time
    else before
  | _ => before

/-- The change is not about this host. Only if it is a topology it can change what is known of it.
-/
def Change.isForeign (h : String) : Change → Bool
  | registered host _ | probed host _ _ => h ≠ host
  | _ => true

namespace Change

def topology? : Change → Option (List HostSpec)
  | topology hosts => some hosts
  | _ => none

def topologies (past : List Change) : List (List HostSpec) := past.filterMap topology?

theorem isForeign_of_isTopology {past : List Change} (h : String)
    (htopology : ∀ change ∈ past, change.isTopology = true) :
    ∀ change ∈ past, change.isForeign h = true := by
  intro change hmem
  cases change with
  | topology hosts => rfl
  | _ => cases htopology _ hmem

/-- Of a history that is not about a host it is enough to know the topologies. -/
theorem foldl_sightAfter_foreign {h : String} {past : List Change}
    (hforeign : ∀ change ∈ past, change.isForeign h = true) (before : Option HostRecord) :
    past.foldl (sightAfter h) before =
      ((topologies past).map topology).foldl (sightAfter h) before := by
  induction past generalizing before with
  | nil => rfl
  | cons change rest ih =>
    obtain ⟨hfirst, hrest⟩ := List.forall_mem_cons.mp hforeign
    rw [List.foldl_cons, ih hrest]
    cases change with
    | registered host role => rw [sightAfter, if_neg (of_decide_eq_true hfirst)]; rfl
    | probed host enabled time => rw [sightAfter, if_neg (of_decide_eq_true hfirst)]; rfl
    | _ => rfl

end Change

namespace Tracker

/-- What is known of a host apart from its zone. -/
def sight (t : Tracker) (h : String) : Option HostRecord := (t.record? h).map (·.unplaced)

theorem unplaced_carried (t : Tracker) (spec : HostSpec) :
    (t.carried spec).unplaced =
      ((t.sight spec.host).map (·.withRole spec.role)).getD (.fresh spec.host spec.role none) := by
  cases hr : t.record? spec.host with
  | none => simp [carried, sight, freshRecord, hr]
  | some old => simp [carried, sight, hr, HostRecord.unplaced_withRole]

theorem sight_ensure (t : Tracker) (host : String) (role : HostRole) (h : String) :
    (t.ensure host role).sight h =
      if h = host then some ((t.sight h).getD (.fresh h role none)) else t.sight h := by
  rw [sight, sight, record?_ensure]
  by_cases heq : h = host
  · subst heq
    cases hr : t.record? h <;> simp [recordOrFresh, freshRecord, hr]
  · simp [heq]

theorem sight_settle (t : Tracker) (host : String) (enabled : Bool) (time : Nat) (h : String) :
    (t.settle host enabled time).sight h =
      if h = host then (t.sight h).map fun r => if r.isWriter then r else r.recordProbe enabled time
      else t.sight h := by
  rw [sight, sight, record?_settle]
  by_cases heq : h = host
  · subst heq
    rw [if_pos rfl, if_pos rfl, Option.map_map, Option.map_map]
    congr 1
    funext r
    show (if r.isWriter = true then r else r.recordProbe enabled time).unplaced =
      if r.unplaced.isWriter = true then r.unplaced else r.unplaced.recordProbe enabled time
    rw [HostRecord.isWriter_unplaced]
    split <;> rfl
  · rw [if_neg heq, if_neg heq]

/-- What is known of a host after a change follows from what was known of it before. No other host
counts. -/
theorem sight_apply (t : Tracker) (change : Change) (h : String) :
    (t.apply change).sight h = change.sightAfter h (t.sight h) := by
  cases change with
  | topology hosts =>
    show ((t.applyTopology hosts).record? h).map _ = _
    rw [record?_applyTopology, Option.map_map, Change.sightAfter]
    -- Every entry that counts is one of this host.
    refine Option.map_congr fun spec hlast => ?_
    have hhost : spec.host = h := (mem_of_lastEntry hlast).2
    rw [Function.comp_apply, unplaced_carried, hhost]
  | registered host role => exact sight_ensure t host role h
  | probed host enabled time => exact sight_settle t host enabled time h
  | preferred zone => rfl
  | mapped hosts => rfl
  | reresolved =>
    show (t.reresolve.record? h).map _ = _
    rw [record?_reresolve, Option.map_map]
    rfl
  | featured has => rfl

theorem sight_replay (t : Tracker) (past : List Change) (h : String) :
    (t.replay past).sight h = past.foldl (Change.sightAfter h) (t.sight h) := by
  induction past generalizing t with
  | nil => rfl
  | cons change rest ih => rw [replay_cons, ih, sight_apply, List.foldl_cons]

/-- What a history that is not about a host leaves of it is what the topologies in it leave. -/
theorem sight_replay_foreign (t : Tracker) {past : List Change} {h : String}
    (hforeign : ∀ change ∈ past, change.isForeign h = true) :
    (t.replay past).sight h = (t.replay ((Change.topologies past).map .topology)).sight h := by
  rw [sight_replay, sight_replay, Change.foldl_sightAfter_foreign hforeign]

end Tracker

end ClusterGate
