import ClusterGate.Proofs.NewTopology
import Mathlib.Data.List.Induction

/-!
# The life of a record

From its first day on, probes are written into a record and topologies list its host in one role or
another. A role that the record has already is no news, and another one makes the record forget.
What a record claims about write forwarding is therefore decided by the steps since the last change
of role alone, and among them by the last probe (`HostRecord.claims_since_change`). The instants of
the probes need not increase: the last probe is the one that was written down last.
-/

namespace ClusterGate

/-- Something that happens to a record. -/
inductive RecordStep
  /-- The outcome of a probe is written down. -/
  | probed (enabled : Bool) (time : Nat)
  /-- A topology lists the host in this role. -/
  | listed (role : HostRole)
  deriving DecidableEq, Repr

namespace RecordStep

/-- The outcome and the time of a probe. -/
def probe? : RecordStep → Option (Bool × Nat)
  | probed enabled time => some (enabled, time)
  | listed _ => none

def role? : RecordStep → Option HostRole
  | probed _ _ => none
  | listed role => some role

/-- The probe that was written down last. -/
def lastProbe? (steps : List RecordStep) : Option (Bool × Nat) :=
  (steps.filterMap probe?).getLast?

/-- The role in which a host is after some steps: the one in which it was listed last. -/
def roleAfter (first : HostRole) (steps : List RecordStep) : HostRole :=
  (steps.filterMap role?).getLast?.getD first

/-- The step gives the host a role other than the one that it has after the steps before. -/
def Changes (first : HostRole) (before : List RecordStep) (step : RecordStep) : Prop :=
  ∃ role, step = listed role ∧ role ≠ roleAfter first before

section
variable (first : HostRole) (steps : List RecordStep)

theorem lastProbe?_concat (step : RecordStep) :
    lastProbe? (steps ++ [step]) = step.probe?.or (lastProbe? steps) := by
  rw [lastProbe?, List.filterMap_append, List.getLast?_append]
  cases step <;> rfl

theorem roleAfter_probed (enabled : Bool) (time : Nat) :
    roleAfter first (steps ++ [probed enabled time]) = roleAfter first steps := by
  simp [roleAfter, role?]

theorem roleAfter_listed (role : HostRole) :
    roleAfter first (steps ++ [listed role]) = role := by
  simp [roleAfter, role?]

end

/-- These steps fall into those up to the last change of role, which is the last of them, and those
since. Without a change all of them are since. -/
structure Parts (first : HostRole) (steps before since : List RecordStep) : Prop where
  joined : before ++ since = steps
  changed : ∀ earlier step, before = earlier ++ [step] → Changes first earlier step
  quiet : ∀ earlier step later, since = earlier ++ step :: later →
    ¬ Changes first (before ++ earlier) step

namespace Parts

variable {first : HostRole} {steps before since before' since' : List RecordStep}

theorem nil (first : HostRole) : Parts first [] [] [] := by
  refine ⟨rfl, fun earlier step h => ?_, fun earlier step later h => ?_⟩
  · simp at h
  · simp at h

/-- A step that changes the role begins anew. -/
theorem concat_changed {step : RecordStep} (h : Changes first steps step) :
    Parts first (steps ++ [step]) (steps ++ [step]) [] := by
  refine ⟨List.append_nil _, fun earlier last heq => ?_, fun earlier last later heq => ?_⟩
  · obtain ⟨rfl, hlast⟩ := List.append_inj' heq rfl
    cases hlast
    exact h
  · simp at heq

/-- Any other step counts to those since. -/
theorem concat_quiet (h : Parts first steps before since) {step : RecordStep}
    (hquiet : ¬ Changes first steps step) :
    Parts first (steps ++ [step]) before (since ++ [step]) := by
  refine ⟨by rw [← List.append_assoc, h.joined], h.changed, fun earlier other later heq => ?_⟩
  -- The step that is looked at is the new one, or was there before.
  cases later using List.reverseRecOn with
  | nil =>
    obtain ⟨rfl, hother⟩ := List.append_inj' heq rfl
    cases hother
    rw [h.joined]
    exact hquiet
  | append_singleton later last =>
    rw [← List.cons_append, ← List.append_assoc] at heq
    exact h.quiet earlier other later (List.append_inj' heq rfl).1

/-- Of two partings neither can be later than the other: the change with which the steps since the
one begin to be quiet would be among those that are quiet in the other. -/
theorem not_later (h : Parts first steps before since) (h' : Parts first steps before' since')
    {more : List RecordStep} (hmore : before' = before ++ more) : more = [] := by
  cases more using List.reverseRecOn with
  | nil => rfl
  | append_singleton more step =>
    rw [← List.append_assoc] at hmore
    have hsince : since = more ++ step :: since' := by
      have hjoined := h.joined.trans h'.joined.symm
      rw [hmore, List.append_assoc, List.append_assoc] at hjoined
      exact List.append_cancel_left hjoined
    exact absurd (h'.changed (before ++ more) step hmore) (h.quiet more step since' hsince)

/-- Steps can be cut at the last change of role in one way only. -/
theorem unique (h : Parts first steps before since) (h' : Parts first steps before' since') :
    before' = before ∧ since' = since := by
  have hbefore : before' = before := by
    rcases List.append_eq_append_iff.mp (h.joined.trans h'.joined.symm) with
      ⟨more, hmore, -⟩ | ⟨more, hmore, -⟩
    · rw [hmore, h.not_later h' hmore, List.append_nil]
    · rw [hmore, h'.not_later h hmore, List.append_nil]
  have hjoined : before ++ since' = before ++ since := by rw [h.joined, ← h'.joined, hbefore]
  exact ⟨hbefore, List.append_cancel_left hjoined⟩

end Parts

end RecordStep

namespace HostRecord

open RecordStep (Parts lastProbe? roleAfter)

def step (r : HostRecord) : RecordStep → HostRecord
  | .probed enabled time => r.recordProbe enabled time
  | .listed role => r.withRole role

def after (r : HostRecord) (steps : List RecordStep) : HostRecord := steps.foldl step r

theorem after_concat (r : HostRecord) (steps : List RecordStep) (step : RecordStep) :
    r.after (steps ++ [step]) = (r.after steps).step step :=
  List.foldl_concat ..

/-! ## Staleness -/

/-- No probe that is remembered is young enough to be believed. -/
theorem isStale_iff {r : HostRecord} {now interval : Nat} :
    r.isStale now interval = true ↔ ∀ time ∈ r.probedAt, time + interval < now := by
  rw [isStale]
  cases r.probedAt with
  | none => simp
  | some time =>
    simp only [gt_iff_lt, decide_eq_true_eq, Option.mem_some_iff, forall_eq']
    omega

/-- Probes go stale with time, and the sooner the less long they are believed. -/
theorem isStale_mono {r : HostRecord} {now now' interval interval' : Nat} (hnow : now ≤ now')
    (hinterval : interval' ≤ interval) (h : r.isStale now interval = true) :
    r.isStale now' interval' = true := by
  rw [isStale_iff] at h ⊢
  intro time htime
  have hold := h time htime
  omega

/-! ## What is remembered -/

/-- The record remembers this probe and no other. -/
def Remembers (r : HostRecord) (probe : Option (Bool × Nat)) : Prop :=
  r.forwarding = probe.any (·.1) ∧ r.probedAt = probe.map (·.2)

theorem Remembers.recordProbe (r : HostRecord) (enabled : Bool) (time : Nat) :
    (r.recordProbe enabled time).Remembers (some (enabled, time)) := ⟨rfl, rfl⟩

theorem Remembers.withRole_changed {r : HostRecord} {role : HostRole} (h : r.role ≠ role) :
    (r.withRole role).Remembers none := by
  rw [HostRecord.withRole_changed h]
  exact ⟨rfl, rfl⟩

/-- A record is stale if the probe that it remembers is too old, or if it remembers none. -/
theorem Remembers.isStale_iff {r : HostRecord} {probe : Option (Bool × Nat)}
    (h : r.Remembers probe) {now interval : Nat} :
    r.isStale now interval = true ↔ ∀ p ∈ probe, p.2 + interval < now := by
  rw [HostRecord.isStale_iff, h.2]
  cases probe with
  | none => simp
  | some p => simp

/-- A record after some steps, said by the steps: the role is the one listed last, and the probe
that is remembered is the last one since that role was taken on. -/
theorem exists_parts_after (host : String) (first : HostRole) (zone : Option String)
    (steps : List RecordStep) :
    let r := (fresh host first zone).after steps
    r.host = host ∧ r.zone = zone ∧ r.role = roleAfter first steps ∧
      ∃ before since, Parts first steps before since ∧ r.Remembers (lastProbe? since) := by
  induction steps using List.reverseRecOn with
  | nil => exact ⟨rfl, rfl, rfl, [], [], .nil first, rfl, rfl⟩
  | append_singleton steps step ih =>
    rw [after_concat]
    obtain ⟨hhost, hzone, hrole, before, since, hparts, hremembers⟩ := ih
    generalize (fresh host first zone).after steps = r at hhost hzone hrole hremembers
    cases step with
    | probed enabled time =>
      have hquiet : ¬ RecordStep.Changes first steps (.probed enabled time) := by
        rintro ⟨role, heq, -⟩
        cases heq
      refine ⟨hhost, hzone, ?_, before, _, hparts.concat_quiet hquiet, ?_⟩
      · rw [RecordStep.roleAfter_probed]
        exact hrole
      · rw [RecordStep.lastProbe?_concat]
        exact .recordProbe r enabled time
    | listed role =>
      rw [RecordStep.roleAfter_listed]
      refine ⟨(host_withRole r role).trans hhost, (zone_withRole r role).trans hzone,
        role_withRole r role, ?_⟩
      -- Being listed in the same role changes nothing.
      by_cases hsame : r.role = role
      · have hquiet : ¬ RecordStep.Changes first steps (.listed role) := by
          rintro ⟨other, heq, hother⟩
          cases heq
          exact hother (hsame.symm.trans hrole)
        refine ⟨before, _, hparts.concat_quiet hquiet, ?_⟩
        rw [RecordStep.lastProbe?_concat, step, withRole_same hsame]
        exact hremembers
      · refine ⟨_, [], .concat_changed ⟨role, rfl, ?_⟩, .withRole_changed hsame⟩
        rw [← hrole]
        exact Ne.symm hsame

/-- After any probes and roles, at any instants, the steps fall in exactly one way into those up to
the last change of role and those since, and what the record claims is said by those since. It is
stale if and only if none of them is a probe, or the last of their probes lies more than the
interval in the past; what is stale stays so later and under a shorter interval. Writes are
forwarded if the last of their probes said so. The role is the one listed last, and host and zone
are those with which the record began. -/
theorem claims_since_change (host : String) (first : HostRole) (zone : Option String)
    (steps : List RecordStep) :
    let r := (fresh host first zone).after steps
    ∃ before since, Parts first steps before since ∧
      (∀ before' since', Parts first steps before' since' → before' = before ∧ since' = since) ∧
      (∀ now interval, r.isStale now interval = true ↔
        lastProbe? since = none ∨
          ∃ enabled time, lastProbe? since = some (enabled, time) ∧ time + interval < now) ∧
      (∀ now now' interval interval', now ≤ now' → interval' ≤ interval →
        r.isStale now interval = true → r.isStale now' interval' = true) ∧
      (r.forwarding = true ↔ ∃ time, lastProbe? since = some (true, time)) ∧
      r.role = roleAfter first steps ∧ r.host = host ∧ r.zone = zone := by
  intro r
  obtain ⟨hhost, hzone, hrole, before, since, hparts, hremembers⟩ :=
    exists_parts_after host first zone steps
  refine ⟨before, since, hparts, fun before' since' h' => hparts.unique h', fun now interval => ?_,
    fun now now' interval interval' => isStale_mono, ?_, hrole, hhost, hzone⟩
  · rw [hremembers.isStale_iff]
    rcases lastProbe? since with _ | ⟨enabled, time⟩
    · simp
    · simp
  · rw [hremembers.1]
    rcases lastProbe? since with _ | ⟨enabled, time⟩
    · simp
    · simp

/-- A reader is probed, promoted and demoted, and then probed again at an earlier instant. -/
def restlessSteps : List RecordStep :=
  [.probed false 50, .listed .writer, .listed .reader, .probed true 10, .listed .reader]

/-- Only the second probe counts, and it goes stale after 60 and not at 60. -/
theorem claims_since_change_restless :
    let r := (fresh "db" .reader none).after restlessSteps
    r.forwarding = true ∧ r.role = .reader ∧ r.isStale 70 60 = false ∧ r.isStale 71 60 = true := by
  intro r
  obtain ⟨before, since, -, hunique, hstale, -, hforwarding, hrole, -⟩ :=
    claims_since_change "db" .reader none restlessSteps
  have hchange : RecordStep.Changes .reader (restlessSteps.take 2) (.listed .reader) :=
    ⟨.reader, rfl, by decide⟩
  have hdemoted : Parts .reader (restlessSteps.take 3) (restlessSteps.take 3) [] :=
    .concat_changed hchange
  have hparts : Parts .reader restlessSteps (restlessSteps.take 3) (restlessSteps.drop 3) := by
    refine (hdemoted.concat_quiet ?_).concat_quiet ?_
    · rintro ⟨role, heq, -⟩
      cases heq
    · rintro ⟨role, heq, hother⟩
      cases heq
      exact hother rfl
  obtain ⟨-, rfl⟩ := hunique _ _ hparts
  have hlater : ∃ enabled time, lastProbe? (restlessSteps.drop 3) = some (enabled, time) ∧
      time + 60 < 71 := ⟨true, 10, rfl, by decide⟩
  refine ⟨hforwarding.mpr ⟨10, rfl⟩, hrole, ?_, (hstale 71 60).mpr (.inr hlater)⟩
  rw [Bool.eq_false_iff]
  intro hold
  rcases (hstale 70 60).mp hold with hnone | ⟨enabled, time, hprobe, hlong⟩
  · cases hnone
  · cases hprobe
    exact absurd hlong (by decide)

end HostRecord

end ClusterGate
