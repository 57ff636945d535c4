import ClusterGate.Proofs.Elsewhere
import ClusterGate.Proofs.Spacing

/-!
# Clocks that never go back

The law on the spacing of queries (`Site.inquiries_disciplined`) asks for times that are in order:
those at which queries are asked and their outcomes written down. They are read off the clock of the
world. This module shows that they are in order for every clock that does not go back, whether the
time passes during driver calls or between operations (`Site.readings_ordered`).
-/

namespace ClusterGate

/-- The clock does not go back while the driver is asked for something. -/
structure Backend.Steady {W : Type} (b : Backend W) : Prop where
  connect : ∀ w id protocol host props, b.now w ≤ b.now (b.connect w id protocol host props).1
  call : ∀ w id request, b.now w ≤ b.now (b.call w id request).1

/-- Nothing goes back from the first time to the last: not the clock, and not the query that may be
asked in between. -/
structure Inquiry.Between (first last : Nat) (asked : Option Inquiry) : Prop where
  forward : first ≤ last
  within : ∀ q ∈ asked, first ≤ q.time ∧ q.time ≤ q.settled ∧ q.settled ≤ last

namespace Inquiry.Between

variable {first last : Nat} {asked : Option Inquiry}

theorem none (h : first ≤ last) : Between first last .none := ⟨h, by simp⟩

theorem widen (h : Between first last asked) {earlier later : Nat} (hearlier : earlier ≤ first)
    (hlater : last ≤ later) : Between earlier later asked := by
  refine ⟨hearlier.trans (h.forward.trans hlater), fun q hq => ?_⟩
  obtain ⟨hasked, hsettled, hended⟩ := h.within q hq
  exact ⟨hearlier.trans hasked, hsettled, hended.trans hlater⟩

end Inquiry.Between

/-! ## Probes -/

namespace Watch

variable {W : Type} {b : Backend W} (hb : b.Steady) (id : ConnectionId)
include hb

/-- Time passes while the driver is asked, and does not come back. -/
theorem now_le_call (origin : Origin) (request : Request) (s : Watch W) :
    b.now s.world ≤ b.now (call b origin id request s).state.world :=
  hb.call s.world id request

theorem now_le_probeForwarding (s : Watch W) :
    b.now s.world ≤ b.now (probeForwarding b id s).state.world := by
  rw [probeForwarding_state]
  exact now_le_call hb id .probe _ s

theorem now_le_probeCapabilities (s : Watch W) :
    b.now s.world ≤ b.now (probeCapabilities b id s).state.world :=
  world_probeCapabilities (P := fun w => b.now s.world ≤ b.now w)
    (fun w request _ hw => hw.trans (hb.call w id request)) (Nat.le_refl _)

/-- The question of a refresh is asked after it began, and settled before it ends. -/
theorem between_refresh (host : String) (seen : List Change) (s : Watch W) :
    Inquiry.Between (b.now s.world) (b.now (refresh b id host s).state.world)
      (inquiry? b id host seen s) := by
  rw [inquiry?, asksForwarding]
  cases hr : s.tracker.record? host with
  | none =>
    rw [refresh_untracked hr]
    exact .none (Nat.le_refl _)
  | some r =>
    cases hneeds : s.tracker.needsProbe r (b.now s.world) with
    | false =>
      rw [refresh_current hr hneeds, Option.any_some, hneeds]
      exact .none (Nat.le_refl _)
    | true =>
      -- The outcome is written down when the query is over, which takes no time.
      have hasked := now_le_probeForwarding hb id s
      rw [(refresh_probe hr hneeds).1, Option.any_some, hneeds]
      refine ⟨hasked, fun q hq => ?_⟩
      cases hq
      exact ⟨Nat.le_refl _, hasked, Nat.le_refl _⟩

end Watch

/-! ## Operations -/

namespace Site

variable {W : Type} {b : Backend W}

variable (hb : b.Steady)
include hb

theorem between_enforceOn (target : Option Connection) (method : Method) (sql : Option String)
    (s : Site W) :
    Inquiry.Between (b.now s.world) (b.now (enforceOn b target method sql s).state.world)
      (enforceInquiry? b target method s) := by
  cases target with
  | none => exact .none (Nat.le_refl _)
  | some connection =>
    rw [enforceInquiry?]
    split
    · next hchecked =>
      rw [(enforceOn_checked hchecked.1 hchecked.2 sql).1]
      exact Watch.between_refresh hb _ _ _ s.watch
    · next hchecked =>
      rw [enforceOn_unchecked hchecked]
      exact .none (Nat.le_refl _)

theorem between_callFor (target : Option Connection) (id : ConnectionId) (request : Request)
    (s : Site W) :
    Inquiry.Between (b.now s.world) (b.now (callFor b target id request s).state.world)
      (callInquiry? b target request s) := by
  rw [callInquiry?]
  by_cases hcommand : target.isSome ∧ (request.mode? s.gate.space).isSome
  · obtain ⟨connection, rfl⟩ := Option.isSome_iff_exists.mp hcommand.1
    obtain ⟨enabled, hmode⟩ := Option.isSome_iff_exists.mp hcommand.2
    rw [if_pos hcommand, (callFor_command b connection id request s hmode).2.1]
    exact .none (Nat.le_refl _)
  · have hpass := passes_of_not_command hcommand
    have hchecked := between_enforceOn hb target request.method request.sql? s
    rw [if_neg hcommand, (callFor_pass b target id request s hpass).2.1]
    cases hvalue : (enforceOn b target request.method request.sql? s).value with
    | error violation =>
      rw [proceed_refused id hvalue]
      exact hchecked
    | ok _ =>
      rw [(proceed_allowed id hvalue).2.1, concluded_world]
      exact hchecked.widen (Nat.le_refl _) (hb.call _ id request)

/-- The topologies and answers before the question of a connect take their time, and so does closing
after a failure. The question lies between. -/
theorem between_connect (protocol : String) (host : HostSpec) (props : Properties) (s : Site W) :
    Inquiry.Between (b.now s.world) (b.now (connect b protocol host props s).state.world)
      (connectInquiry? b protocol host props s) := by
  have hopened : b.now s.world ≤ b.now (opening b protocol host props s).state.world := by
    have hready : (readied props s).watch.world = s.world := by
      rw [readied_eq]
      exact applyProperties_world props s
    rw [← hready]
    exact hb.connect _ _ _ _ _
  rw [connectInquiry?]
  cases hopen : (opening b protocol host props s).value with
  | error source =>
    rw [(connect_refused hopen).2]
    exact .none hopened
  | ok _ =>
    have hprobed := hopened.trans
      (Watch.now_le_probeCapabilities hb ⟨s.gate.minted⟩ (opening b protocol host props s).state)
    cases hprobe : (Watch.probeCapabilities b ⟨s.gate.minted⟩
      (opening b protocol host props s).state).value with
    | error source =>
      have hfailed : probing b protocol host props s = _ :=
        Watch.probeConnection_failed host hprobe
      rw [(connect_abandoned hopen (congrArg Step.value hfailed)).2, hfailed]
      exact .none (hprobed.trans (Watch.now_le_call hb _ .probe _ _))
    | ok capabilities =>
      obtain ⟨hvalue, hstate, -⟩ := Watch.probeConnection_probed host hprobe
      rw [(connect_handedOut hopen hvalue).2, probing, hstate]
      exact (Watch.between_refresh hb _ _ _ _).widen hprobed (Nat.le_refl _)

/-- During an operation the clock does not go back, and neither does the query of the operation. -/
theorem between_perform {op : Operation W} {s : Site W}
    (hforward : ∀ world, op = .elapse world → b.now s.world ≤ b.now world) :
    Inquiry.Between (b.now s.world) (b.now (perform b op s).state.world) (op.inquiry? b s) := by
  cases op with
  | connect protocol host props => exact between_connect hb protocol host props s
  | call target request =>
    rw [Operation.inquiry?]
    rcases perform_call_state b target request s with hstate | ⟨hgone, hstate⟩
    · rw [hstate]
      exact between_callFor hb _ target.owner request s
    · rw [hstate, hgone]
      exact .none (Nat.le_refl _)
  | elapse world => exact .none (hforward world rfl)
  | release id =>
    cases hheld : s.gate.connection? id <;>
      simpa [perform, hheld, Operation.inquiry?] using Inquiry.Between.none (Nat.le_refl _)
  | seed source => cases source <;> exact .none (Nat.le_refl _)
  | _ => exact .none (Nat.le_refl _)

/-- Where neither the driver nor the time between operations sets the clock back, queries are asked
and settled in the order of the run. -/
theorem readings_ordered {s : Site W} {ops : List (Operation W)}
    (hforward : ∀ m ∈ trail b s ops, ∀ world, m.operation = .elapse world →
      b.now m.site.world ≤ b.now world) :
    let readings := (inquiries b s ops).flatMap Inquiry.readings
    readings.Pairwise (· ≤ ·) ∧ ∀ time ∈ readings, time ≤ b.now (after b s ops).world := by
  induction ops using List.reverseRecOn with
  | nil => exact ⟨.nil, by simp [inquiries, inquiriesAfter]⟩
  | append_singleton ops op ih =>
    simp only [trail_concat, List.forall_mem_append, List.forall_mem_singleton] at hforward
    obtain ⟨hordered, hpast⟩ := ih hforward.1
    have hlast := between_perform hb hforward.2
    simp only [inquiries_concat, List.flatMap_append, after_concat, List.forall_mem_append]
    cases hasks : op.inquiry? b (after b s ops) with
    | none =>
      have hnothing : ((none : Option Inquiry).map (·.afterwards (past b s ops))).toList.flatMap
          Inquiry.readings = [] := rfl
      rw [hnothing, List.append_nil]
      exact ⟨hordered, fun time htime => (hpast time htime).trans hlast.forward, by simp⟩
    | some q =>
      obtain ⟨hasked, hsettled, hended⟩ := hlast.within q hasks
      have hreadings : ((some q).map (·.afterwards (past b s ops))).toList.flatMap
          Inquiry.readings = [q.time, q.settled] := rfl
      rw [hreadings]
      refine ⟨List.pairwise_append.mpr ⟨hordered, by simpa using hsettled, ?_⟩,
        fun time htime => (hpast time htime).trans hlast.forward, ?_⟩
      · -- What was read before the last operation is no later than its beginning.
        intro time htime later hlater
        have hbefore := hpast time htime
        simp only [List.mem_cons, List.not_mem_nil, or_false] at hlater
        omega
      · simpa using ⟨hsettled.trans hended, hended⟩

end Site

end ClusterGate
