import ClusterGate.Proofs.Provenance
import ClusterGate.Proofs.Run

/-!
# Probes that are overtaken

While a reader is asked for write forwarding topologies may arrive. The outcome describes the host
as it was asked, so it should count only if the host was a reader in every table meanwhile. What is
looked at when the outcome is written down is the last table alone (`Watch.refresh_overtaken`).

That is enough where the host ends as a writer or untracked, and where it was a reader all the time.
It is not enough for a host that comes back as a reader. The topologies leave it a blank record, so
that it has to be probed afresh, and the outcome is written into that record all the same
(`Watch.overtaken_probe_believed`).
-/

namespace ClusterGate

namespace Tracker

/-! ## Topologies that arrive in a row -/

/-- If a host is tracked, its record claims nothing about write forwarding. -/
def BlankAt (t : Tracker) (h : String) : Prop := ∀ r, t.record? h = some r → r.Blank

variable {t : Tracker} {h : String}

/-- A topology makes no claims of its own. -/
theorem BlankAt.receive (hblank : t.BlankAt h) (push : TopologyPush) :
    (t.receive push).BlankAt h := by
  intro r hr
  cases source_applyTopology hr with
  | blank hblank => exact hblank
  | kept old hold hagree _ =>
    obtain ⟨-, hforwarding, htime⟩ := hagree
    obtain ⟨hold_forwarding, hold_time⟩ := hblank old hold
    exact ⟨hforwarding.trans hold_forwarding, htime.trans hold_time⟩
  | probed _ _ hchange => cases hchange

/-- Topologies make no claims about write forwarding. -/
theorem BlankAt.receiveAll (hblank : t.BlankAt h) (pushes : List TopologyPush) :
    (t.receiveAll pushes).BlankAt h := by
  induction pushes generalizing t with
  | nil => exact hblank
  | cons push rest ih => exact ih (hblank.receive push)

/-- A reader that is dropped or promoted leaves nothing of its probe. -/
theorem blankAt_of_left (hreader : t.role? h = some .reader) {push : TopologyPush}
    (hleft : (t.receive push).role? h ≠ some .reader) : (t.receive push).BlankAt h := by
  intro r hr
  cases source_applyTopology hr with
  | blank hblank => exact hblank
  | kept old hold hagree _ =>
    -- The record would still be a reader's.
    have hrole : (t.receive push).role? h = t.role? h := by
      rw [role?, role?, hr, hold, Option.map_some, Option.map_some, hagree.1]
    exact absurd (hrole.trans hreader) hleft
  | probed _ _ hchange => cases hchange

/-- A reader that was something else in one of the tables meanwhile has a blank record in the end,
whatever it is then. -/
theorem blankAt_receiveAll {pushes seen : List TopologyPush} (hreader : t.role? h = some .reader)
    (hseen : seen <+: pushes) (hleft : (t.receiveAll seen).role? h ≠ some .reader) :
    (t.receiveAll pushes).BlankAt h := by
  induction pushes generalizing t seen with
  | nil =>
    rw [List.prefix_nil.mp hseen] at hleft
    exact absurd hreader hleft
  | cons push rest ih =>
    rcases List.prefix_cons_iff.mp hseen with rfl | ⟨seen', rfl, hseen'⟩
    · exact absurd hreader hleft
    · -- Either the first topology makes it leave, or a later one does.
      by_cases hstill : (t.receive push).role? h = some .reader
      · exact ih hstill hseen' hleft
      · exact (blankAt_of_left hreader hstill).receiveAll rest

/-- A host that is a reader in every table keeps its record. -/
theorem record?_receiveAll_of_reader {pushes : List TopologyPush} {r : HostRecord}
    (hr : t.record? h = some r)
    (hreader : ∀ seen, seen <+: pushes → (t.receiveAll seen).role? h = some .reader) :
    (t.receiveAll pushes).record? h = some r := by
  induction pushes generalizing t with
  | nil => exact hr
  | cons push rest ih =>
    have hrole : r.role = .reader := by
      have hfirst := hreader [] List.nil_prefix
      rw [receiveAll_nil, role?, hr] at hfirst
      exact Option.some.inj hfirst
    have hnext : (t.receive push).role? h = some r.role := by
      rw [hrole]
      exact hreader [push] (List.cons_prefix_cons.mpr ⟨rfl, List.nil_prefix⟩)
    refine ih (record?_applyTopology_of_role hr hnext) fun seen hseen => ?_
    exact hreader (push :: seen) (List.cons_prefix_cons.mpr ⟨rfl, hseen⟩)

/-! ## Writing the outcome down -/

/-- An outcome is written down for a host that is a reader by then, and for no other. -/
theorem record?_settle_eq (t : Tracker) (host : String) (enabled : Bool) (time : Nat) (h : String) :
    (t.settle host enabled time).record? h =
      if h = host ∧ t.role? host = some .reader then
        (t.record? h).map fun r => r.recordProbe enabled time
      else t.record? h := by
  rw [record?_settle, role?]
  by_cases heq : h = host
  · subst heq
    cases hr : t.record? h with
    | none => simp
    | some r => cases hrole : r.role <;> simp [HostRecord.isWriter, hrole]
  · simp [heq]

/-- The outcome of a probe is dropped where the host is no tracked reader any more. -/
theorem settle_of_not_reader {host : String} (hrole : t.role? host ≠ some .reader) (enabled : Bool)
    (time : Nat) : t.settle host enabled time = t := by
  rw [settle]
  split
  · next r hr =>
    refine if_pos ?_
    cases hwriter : r.role with
    | writer => exact decide_eq_true hwriter
    | reader =>
      rw [role?, hr, Option.map_some, hwriter] at hrole
      exact absurd rfl hrole
  · rfl

end Tracker

/-! ## Refreshes -/

namespace Watch

variable {W : Type} (b : Backend W) (id : ConnectionId) {host : String} {s : Watch W}

/-- What a refresh leaves when topologies arrive during its query. The outcome is written into the
record that they left if the host is a reader by then; nothing else is touched, and otherwise all is
as they left it. A host that was a reader in every table keeps its record, with the outcome. A host
that was not has a blank record, if any. -/
theorem refresh_overtaken {r : HostRecord} (hr : s.tracker.record? host = some r)
    (hneeds : s.tracker.needsProbe r (b.now s.world) = true) :
    let pushes := (b.call s.world id (.executeQuery forwardingQuery)).2.pushes
    let asked := probeForwarding b id s
    let outcome (r : HostRecord) := r.recordProbe asked.value (b.now asked.state.world)
    let left := s.tracker.receiveAll pushes
    let settled := (refresh b id host s).state.tracker
    (∀ h, settled.record? h =
        if h = host ∧ left.role? host = some .reader then (left.record? h).map outcome
        else left.record? h) ∧
      (left.role? host ≠ some .reader → settled = left) ∧
      ((∀ seen, seen <+: pushes → (s.tracker.receiveAll seen).role? host = some .reader) →
        settled.record? host = some (outcome r)) ∧
      ∀ seen, seen <+: pushes → (s.tracker.receiveAll seen).role? host ≠ some .reader →
        left.BlankAt host := by
  intro pushes asked outcome left settled
  -- The table that the query leaves is the one into which the outcome is written.
  have hleft : asked.state.tracker = left := congrArg Watch.tracker (probeForwarding_state b id s)
  have hsettled : settled = left.settle host asked.value (b.now asked.state.world) := by
    rw [← hleft]
    exact congrArg Watch.tracker (refresh_probe hr hneeds).1
  have hrecord := left.record?_settle_eq host asked.value (b.now asked.state.world)
  rw [← hsettled] at hrecord
  have hreader : s.tracker.role? host = some .reader := by
    cases hrole : r.role with
    | reader => rw [Tracker.role?, hr, Option.map_some, hrole]
    | writer => simp [Tracker.needsProbe, HostRecord.isWriter, hrole] at hneeds
  refine ⟨hrecord, fun hrole => ?_, fun hevery => ?_, fun seen hseen hgone => ?_⟩
  · rw [hsettled]
    exact Tracker.settle_of_not_reader hrole _ _
  · rw [hrecord, if_pos ⟨rfl, hevery pushes List.prefix_rfl⟩,
      Tracker.record?_receiveAll_of_reader hr hevery]
    rfl
  · exact Tracker.blankAt_receiveAll hreader hseen hgone

end Watch

/-- A world that is a clock and in which every query answers `on`, while these topology changes
arrive. -/
def Backend.bringing (pushes : List TopologyPush) : Backend Nat :=
  { Backend.moving [] with
    call := fun now id request =>
      let (later, answer) := (Backend.moving []).call now id request
      (later, { answer with pushes }) }

namespace Watch

/-- A reader that was never probed. -/
def unprobed : Watch Nat := ⟨(Tracker.new ⟨none, ∅⟩ 60000000000).ensure "db" .reader, 0⟩

/-- The outcome counts when the reader stays one, and not when it is promoted. -/
theorem refresh_overtaken_promoted :
    let settled (push : TopologyPush) :=
      (refresh (.bringing [push]) ⟨0⟩ "db" unprobed).state.tracker
    settled ⟨[⟨"db", 5432, .writer⟩], true⟩ =
        unprobed.tracker.applyTopology [⟨"db", 5432, .writer⟩] ∧
      (settled ⟨[⟨"db", 5432, .reader⟩], true⟩).record? "db" =
        some ⟨"db", .reader, none, true, some 1⟩ := by
  intro settled
  have hr : unprobed.tracker.record? "db" = some (.fresh "db" .reader none) := by decide +kernel
  have hneeds : unprobed.tracker.needsProbe (.fresh "db" .reader none) 0 = true := rfl
  constructor
  · obtain ⟨-, hkept, -⟩ :=
      refresh_overtaken (.bringing [⟨[⟨"db", 5432, .writer⟩], true⟩]) ⟨0⟩ hr hneeds
    exact hkept (by decide +kernel)
  · obtain ⟨hrecord, -⟩ :=
      refresh_overtaken (.bringing [⟨[⟨"db", 5432, .reader⟩], true⟩]) ⟨0⟩ hr hneeds
    exact (hrecord "db").trans (by decide +kernel)

/-- A reader that is promoted or dropped and comes back while it is asked is believed to forward
writes, although the topologies left a record that was never probed. -/
theorem overtaken_probe_believed :
    let away : List TopologyPush := [⟨[⟨"db", 5432, .writer⟩], true⟩, ⟨[], true⟩]
    let back : TopologyPush := ⟨[⟨"db", 5432, .reader⟩], true⟩
    let left (detour : TopologyPush) := unprobed.tracker.receiveAll [detour, back]
    let settled (detour : TopologyPush) :=
      (refresh (.bringing [detour, back]) ⟨0⟩ "db" unprobed).state.tracker
    away.map (fun detour => (unprobed.tracker.receive detour).role? "db") = [some .writer, none] ∧
      away.map (fun detour => (left detour).record? "db") =
        .replicate 2 (some ⟨"db", .reader, none, false, none⟩) ∧
      away.map (fun detour => (settled detour).record? "db") =
        .replicate 2 (some ⟨"db", .reader, none, true, some 1⟩) := by
  decide +kernel

end Watch

end ClusterGate
