import ClusterGate.Proofs.ProbeHistory
import Mathlib.Data.List.Induction

/-!
# Where forwarding facts come from

A record tells whether a reader forwards writes, and a connection in strict-writer mode trusts it.
This module traces the fact back through the history of the table: it is the outcome of the last
probe of the host that was written down, and the host was a reader in every table since then.

The point is what the changes forget. A topology forgets the probe of a host that changes its role,
or leaves and comes back; the outcome of a probe that was overtaken by a promotion is dropped; so no
other change than the probe itself ever makes a record claim that writes are forwarded.
-/

namespace ClusterGate

namespace HostRecord

/-- The record claims nothing about write forwarding. -/
def Blank (r : HostRecord) : Prop := r.forwarding = false ∧ r.probedAt = none

/-- The records have the same role and claim the same about write forwarding. -/
def Agree (r r' : HostRecord) : Prop :=
  r'.role = r.role ∧ r'.forwarding = r.forwarding ∧ r'.probedAt = r.probedAt

theorem Agree.refl (r : HostRecord) : r.Agree r := ⟨rfl, rfl, rfl⟩

/-- A record under a new topology claims what it did before, or nothing. -/
theorem withRole_agree_or_blank (r : HostRecord) (role : HostRole) :
    r.Agree (r.withRole role) ∨ (r.withRole role).Blank := by
  rw [withRole]
  split
  · exact .inl (.refl r)
  · exact .inr ⟨rfl, rfl⟩

end HostRecord

namespace Tracker

/-! ## One change -/

/-- Where the record of a host can come from after a change: it claims nothing, or it claims what it
did before, or the change is a probe of this reader. -/
inductive Source (t : Tracker) (change : Change) (h : String) (r : HostRecord) : Prop
  | blank (hblank : r.Blank)
  | kept (old : HostRecord) (hold : t.record? h = some old) (hagree : old.Agree r)
      (hother : old.role = .reader → ∀ enabled time, change ≠ .probed h enabled time)
  | probed (enabled : Bool) (time : Nat) (hchange : change = .probed h enabled time)
      (hrole : r.role = .reader) (hforwarding : r.forwarding = enabled)
      (htime : r.probedAt = some time)

/-- A topology keeps a claim with the role, and else drops it. -/
theorem source_applyTopology {t : Tracker} {hosts : List HostSpec} {h : String} {r : HostRecord}
    (hr : (t.applyTopology hosts).record? h = some r) : t.Source (.topology hosts) h r := by
  rw [record?_applyTopology] at hr
  obtain ⟨spec, hlast, rfl⟩ := Option.map_eq_some_iff.mp hr
  have hhost : spec.host = h := (mem_of_lastEntry hlast).2
  rw [carried]
  cases hold : t.record? spec.host with
  | none => exact .blank ⟨rfl, rfl⟩
  | some old =>
    rcases old.withRole_agree_or_blank spec.role with hagree | hblank
    · exact .kept old (hhost ▸ hold) hagree (by simp)
    · exact .blank hblank

/-- Registering a host makes no claim about it. -/
theorem source_ensure {t : Tracker} {host : String} {role : HostRole} {h : String} {r : HostRecord}
    (hr : (t.ensure host role).record? h = some r) : t.Source (.registered host role) h r := by
  rw [record?_ensure] at hr
  split at hr
  · next heq =>
    subst heq
    cases hold : t.record? h with
    | none =>
      rw [recordOrFresh, hold] at hr
      cases hr
      exact .blank ⟨rfl, rfl⟩
    | some old =>
      rw [recordOrFresh, hold] at hr
      cases hr
      exact .kept _ hold (.refl _) (by simp)
  · exact .kept r hr (.refl r) (by simp)

/-- The outcome of a probe is a claim about the one host that was probed. -/
theorem source_settle {t : Tracker} {host : String} {enabled : Bool} {time : Nat} {h : String}
    {r : HostRecord} (hr : (t.settle host enabled time).record? h = some r) :
    t.Source (.probed host enabled time) h r := by
  rw [record?_settle] at hr
  split at hr
  · next heq =>
    subst heq
    obtain ⟨old, hold, rfl⟩ := Option.map_eq_some_iff.mp hr
    cases hrole : old.role with
    | writer =>
      -- The host was promoted while it was probed.
      have hwriter : old.isWriter = true := decide_eq_true hrole
      rw [if_pos hwriter]
      exact .kept old hold (.refl old) (by simp [hrole])
    | reader =>
      have hreader : ¬ old.isWriter = true := by
        rw [HostRecord.isWriter, hrole]
        decide
      rw [if_neg hreader]
      exact .probed enabled time rfl hrole rfl rfl
  · next hne =>
    refine .kept r hr (.refl r) fun _ _ _ heq => ?_
    cases heq
    exact hne rfl

theorem source_apply {t : Tracker} {change : Change} {h : String} {r : HostRecord}
    (hr : (t.apply change).record? h = some r) : t.Source change h r := by
  cases change with
  | topology hosts => exact source_applyTopology hr
  | registered host role => exact source_ensure hr
  | probed host enabled time => exact source_settle hr
  | preferred zone => exact .kept r hr (.refl r) (by simp)
  | mapped hosts => exact .kept r hr (.refl r) (by simp)
  | reresolved =>
    have hzone : t.reresolve.record? h = some r := hr
    rw [record?_reresolve] at hzone
    obtain ⟨old, hold, rfl⟩ := Option.map_eq_some_iff.mp hzone
    exact .kept old hold ⟨rfl, rfl, rfl⟩ (by simp)
  | featured has => exact .kept r hr (.refl r) (by simp)

/-! ## A history of changes -/

/-- The last probe of a host that was written down had this outcome at this time, and the host was a
reader in every table since then. -/
def Grounded (start : Tracker) (past : List Change) (h : String) (enabled : Bool) (time : Nat) :
    Prop :=
  ∃ before after, past = before ++ .probed h enabled time :: after ∧
    (∀ since, since <+: after →
      (start.replay (before ++ .probed h enabled time :: since)).role? h = some .reader) ∧
    ∀ enabled' time', .probed h enabled' time' ∉ after

/-- What a record claims about write forwarding is backed by the history of the table. -/
structure Backed (start : Tracker) (past : List Change) (h : String) (r : HostRecord) : Prop where
  writer : r.role = .writer → r.Blank
  unprobed : r.probedAt = none → r.forwarding = false
  probed : ∀ time, r.probedAt = some time → start.Grounded past h r.forwarding time

/-- A change keeps the ground of a claim if the host is a reader after it and it is no probe of this
host. -/
theorem Grounded.concat {start : Tracker} {past : List Change} {h : String} {enabled : Bool}
    {time : Nat} (hg : start.Grounded past h enabled time) {change : Change}
    (hreader : (start.replay (past ++ [change])).role? h = some .reader)
    (hother : ∀ enabled' time', change ≠ .probed h enabled' time') :
    start.Grounded (past ++ [change]) h enabled time := by
  obtain ⟨before, after, hpast, hsince, hlast⟩ := hg
  refine ⟨before, after ++ [change], by simp [hpast], ?_, ?_⟩
  · intro since hprefix
    -- The tables since the probe are the old ones and the one that the change leaves.
    rcases List.prefix_concat_iff.mp hprefix with rfl | hprefix
    · rw [hpast] at hreader
      simpa using hreader
    · exact hsince since hprefix
  · intro enabled' time' hmem
    rcases List.mem_append.mp hmem with hmem | hmem
    · exact hlast enabled' time' hmem
    · exact hother enabled' time' (List.mem_singleton.mp hmem).symm

/-- Whatever happens to a table that starts without hosts, every claim stays backed. -/
theorem backed_replay (zones : ZoneSettings) (interval : Nat) (past : List Change) {h : String}
    {r : HostRecord} (hr : ((new zones interval).replay past).record? h = some r) :
    (new zones interval).Backed past h r := by
  induction past using List.reverseRecOn generalizing r with
  | nil => cases hr
  | append_singleton past change ih =>
    have hrole : ((new zones interval).replay (past ++ [change])).role? h = some r.role := by
      rw [role?, hr]
      rfl
    rw [replay_concat] at hr
    cases source_apply hr with
    | blank hblank =>
      -- A record that claims nothing needs no backing.
      obtain ⟨hforwarding, htime⟩ := hblank
      refine ⟨fun _ => ⟨hforwarding, htime⟩, fun _ => hforwarding, fun time hprobed => ?_⟩
      rw [htime] at hprobed
      cases hprobed
    | kept old hold hagree hother =>
      obtain ⟨hsame, hforwarding, htime⟩ := hagree
      have hbacked := ih hold
      refine ⟨fun hwriter => ?_, fun hnone => ?_, fun time hprobed => ?_⟩
      · have hblank := hbacked.writer (hsame ▸ hwriter)
        exact ⟨hforwarding.trans hblank.1, htime.trans hblank.2⟩
      · rw [hforwarding]
        exact hbacked.unprobed (htime ▸ hnone)
      · -- A writer claims nothing, so the record is a reader's.
        have hreader : old.role = .reader := by
          cases hold' : old.role with
          | reader => rfl
          | writer =>
            have hblank := hbacked.writer hold'
            rw [htime, hblank.2] at hprobed
            cases hprobed
        rw [hforwarding]
        refine (hbacked.probed time (htime ▸ hprobed)).concat ?_ (hother hreader)
        rw [hrole, hsame, hreader]
    | probed enabled time hchange hreader hforwarding htime =>
      refine ⟨fun hwriter => ?_, fun hnone => ?_, fun time' hprobed => ?_⟩
      · rw [hreader] at hwriter
        cases hwriter
      · rw [htime] at hnone
        cases hnone
      · rw [htime] at hprobed
        cases hprobed
        subst hchange hforwarding
        -- The probe is the last change, so the table after it is the only one since then.
        refine ⟨past, [], rfl, ?_, fun _ _ => List.not_mem_nil⟩
        intro since hprefix
        rw [List.prefix_nil.mp hprefix, hrole, hreader]

end Tracker

/-! ## Work on the table -/

/-- Work on the host table, as connections and topology providers ask for it. -/
inductive Upkeep (W : Type)
  | ensure (host : String) (role : HostRole)
  | probeConnection (id : ConnectionId) (host : HostSpec)
  | refresh (id : ConnectionId) (host : String)
  | applyTopology (hosts : List HostSpec)
  | prefer (zone : String)
  | replaceHostMap (hosts : ZoneMap)
  | reresolve
  /-- The world changes: time passes, and servers change their ways. -/
  | elapse (world : W)

namespace Watch

variable {W : Type} (b : Backend W)

/-- The table and the world when some work is done. -/
def keep (s : Watch W) : Upkeep W → Watch W
  | .ensure host role => (ensure host role s).state
  | .probeConnection id host => (probeConnection b id host s).state
  | .refresh id host => (refresh b id host s).state
  | .applyTopology hosts => { s with tracker := s.tracker.applyTopology hosts }
  | .prefer zone => { s with tracker := s.tracker.prefer zone }
  | .replaceHostMap hosts => { s with tracker := s.tracker.replaceHostMap hosts }
  | .reresolve => { s with tracker := s.tracker.reresolve }
  | .elapse world => { s with world }

/-- The changes that some work makes to the table, in order. -/
def keepChanges (s : Watch W) : Upkeep W → List Change
  | .ensure host role => [.registered host role]
  | .probeConnection id host => probeChanges b id host s
  | .refresh id host => refreshChanges b id host s
  | .applyTopology hosts => [.topology hosts]
  | .prefer zone => [.preferred zone]
  | .replaceHostMap hosts => [.mapped hosts]
  | .reresolve => [.reresolved]
  | .elapse _ => []

theorem keep_tracker (s : Watch W) (work : Upkeep W) :
    (keep b s work).tracker = s.tracker.replay (keepChanges b s work) := by
  cases work with
  | probeConnection id host => exact probeConnection_tracker b id host s
  | refresh id host => exact refresh_tracker b id host s
  | _ => rfl

def after (s : Watch W) (run : List (Upkeep W)) : Watch W := run.foldl (keep b) s

def past (s : Watch W) : List (Upkeep W) → List Change
  | [] => []
  | work :: rest => keepChanges b s work ++ past (keep b s work) rest

theorem after_tracker (s : Watch W) (run : List (Upkeep W)) :
    (after b s run).tracker = s.tracker.replay (past b s run) := by
  induction run generalizing s with
  | nil => rfl
  | cons work rest ih =>
    rw [past, Tracker.replay_append, ← keep_tracker]
    exact ih (keep b s work)

/-- In every table that a run passes through a writer claims nothing about write forwarding, and
neither does a reader that was never probed. A reader that was probed claims the outcome of its last
probe that was written down, and it was a reader in every table since then; so no reader accepts
writes because of a probe before it last changed its role or left the table. -/
theorem forwarding_backed (zones : ZoneSettings) (interval : Nat) (world : W)
    (run : List (Upkeep W)) :
    let start : Tracker := .new zones interval
    let history := past b ⟨start, world⟩ run
    (after b ⟨start, world⟩ run).tracker = start.replay history ∧
      ∀ seen, seen <+: history → ∀ h r, (start.replay seen).record? h = some r →
        (r.role = .writer → r.forwarding = false ∧ r.probedAt = none) ∧
        (r.role = .reader → r.probedAt = none → r.forwarding = false) ∧
        (r.role = .reader → ∀ time, r.probedAt = some time →
          ∃ before after, seen = before ++ .probed h r.forwarding time :: after ∧
            (∀ since, since <+: after →
              (start.replay (before ++ .probed h r.forwarding time :: since)).role? h =
                some .reader) ∧
            ∀ enabled time', .probed h enabled time' ∉ after) ∧
        (r.role = .reader → r.acceptsWrites = true →
          ∃ before time after, seen = before ++ .probed h true time :: after ∧
            ∀ since, since <+: after →
              (start.replay (before ++ .probed h true time :: since)).role? h = some .reader) := by
  intro start history
  refine ⟨after_tracker b ⟨start, world⟩ run, fun seen _ h r hr => ?_⟩
  have hbacked : start.Backed seen h r := Tracker.backed_replay zones interval seen hr
  refine ⟨hbacked.writer, fun _ => hbacked.unprobed, fun _ => hbacked.probed, ?_⟩
  intro hreader haccepts
  -- A reader accepts writes only where it is known to forward them, so it was probed.
  have hforwarding : r.forwarding = true := by
    simpa [HostRecord.acceptsWrites, HostRecord.isWriter, hreader] using haccepts
  cases htime : r.probedAt with
  | none =>
    rw [hbacked.unprobed htime] at hforwarding
    cases hforwarding
  | some time =>
    obtain ⟨before, after, hhistory, hsince, -⟩ := hbacked.probed time htime
    rw [hforwarding] at hhistory hsince
    exact ⟨before, time, after, hhistory, hsince⟩

end Watch

end ClusterGate
