import ClusterGate.Proofs.Inquiries
import ClusterGate.Proofs.Provenance
import Mathlib.Data.List.Infix

/-!
# How often a host is asked

Connections share what was found out about a host. A host is asked for write forwarding only while
it is tracked as a reader, and only when its last probe, if it has one, is older than the interval.
So as long as a host stays a reader, the queries about it are more than an interval apart, whichever
connections ask and whatever the server answers.

The reason is that the record of a host that stays a reader has the time of the last probe in the
history (`Tracker.probedAt?_replay`), and every probe in the history is that of a query
(`Site.probes_changes`).
-/

namespace ClusterGate

/-! ## When a host was probed last -/

namespace Change

/-- When the outcome of the last probe of a host was written down. -/
def lastProbe? (h : String) (changes : List Change) : Option Nat :=
  ((probes changes).filter fun p => p.1 = h).getLast?.map (·.2)

theorem lastProbe?_append (h : String) (l r : List Change) :
    lastProbe? h (l ++ r) = (lastProbe? h r).or (lastProbe? h l) := by
  rw [lastProbe?, probes_append, List.filter_append, List.getLast?_append, Option.map_or]
  rfl

theorem lastProbe?_probed (h : String) (enabled : Bool) (time : Nat) :
    lastProbe? h [.probed h enabled time] = some time := by
  simp [lastProbe?, probes, probe?]

/-- Where there was a probe there is a last one. -/
theorem exists_lastProbe? {h : String} {changes : List Change} {time : Nat}
    (hprobe : (h, time) ∈ probes changes) :
    ∃ last, lastProbe? h changes = some last ∧ (h, last) ∈ probes changes := by
  have hmem : (h, time) ∈ (probes changes).filter fun p => p.1 = h :=
    List.mem_filter.mpr ⟨hprobe, decide_eq_true rfl⟩
  obtain ⟨⟨host, last⟩, hlast⟩ :=
    Option.isSome_iff_exists.mp (List.getLast?_isSome.mpr (List.ne_nil_of_mem hmem))
  obtain ⟨hfound, hhost⟩ := List.mem_filter.mp (List.mem_of_getLast? hlast)
  cases (of_decide_eq_true hhost : host = h)
  exact ⟨last, by rw [lastProbe?, hlast]; rfl, hfound⟩

theorem lastProbe?_eq_none {h : String} {changes : List Change}
    (hother : ∀ enabled time, .probed h enabled time ∉ changes) : lastProbe? h changes = none := by
  cases hlast : lastProbe? h changes with
  | none => rfl
  | some time =>
    rw [lastProbe?] at hlast
    obtain ⟨⟨host, last⟩, hlast, -⟩ := Option.map_eq_some_iff.mp hlast
    obtain ⟨hfound, hhost⟩ := List.mem_filter.mp (List.mem_of_getLast? hlast)
    cases (of_decide_eq_true hhost : host = h)
    obtain ⟨change, hmem, hprobe⟩ := List.mem_filterMap.mp hfound
    cases change with
    | probed host enabled time =>
      cases hprobe
      exact absurd hmem (hother enabled last)
    | _ => cases hprobe

end Change

namespace Tracker

/-- When a host was probed last, as its record has it. -/
def probedAt? (t : Tracker) (h : String) : Option Nat := (t.record? h).bind (·.probedAt)

theorem exists_record_of_role {t : Tracker} {h : String} {role : HostRole}
    (hrole : t.role? h = some role) : ∃ r, t.record? h = some r ∧ r.role = role :=
  Option.map_eq_some_iff.mp hrole

/-- A host that stays a reader keeps the time of its last probe, unless the change is a probe of it.
-/
theorem probedAt?_apply {t : Tracker} {change : Change} {h : String}
    (hbefore : t.role? h = some .reader) (hafter : (t.apply change).role? h = some .reader) :
    (t.apply change).probedAt? h = (Change.lastProbe? h [change]).or (t.probedAt? h) := by
  obtain ⟨r, hr, hreader⟩ := exists_record_of_role hbefore
  cases change with
  | topology hosts =>
    -- The host is a reader on both sides, so its record is kept.
    show (t.applyTopology hosts).probedAt? h = t.probedAt? h
    rw [probedAt?, probedAt?, record?_applyTopology_of_role hr (hreader ▸ hafter), hr]
  | registered host role =>
    show (t.ensure host role).probedAt? h = t.probedAt? h
    rw [probedAt?, probedAt?, record?_ensure]
    split
    · next heq =>
      subst heq
      rw [recordOrFresh, hr, Option.getD_some]
    · rfl
  | probed host enabled time =>
    show (t.settle host enabled time).probedAt? h = _
    rw [probedAt?, probedAt?, record?_settle]
    by_cases heq : h = host
    · subst heq
      have hwriter : r.isWriter = false := by
        rw [HostRecord.isWriter, hreader]
        decide
      rw [if_pos rfl, hr, Change.lastProbe?_probed, Option.map_some, hwriter]
      rfl
    · have hother : ∀ enabled' time',
          .probed h enabled' time' ∉ [Change.probed host enabled time] := by
        intro enabled' time' hmem
        cases List.mem_singleton.mp hmem
        exact heq rfl
      rw [if_neg heq, Change.lastProbe?_eq_none hother]
      rfl
  | reresolved =>
    show t.reresolve.probedAt? h = t.probedAt? h
    rw [probedAt?, probedAt?, record?_reresolve, hr]
    rfl
  | _ => rfl

/-- The record of a host that stays a reader has the time of the last probe. -/
theorem probedAt?_replay {t : Tracker} {changes : List Change} {h : String}
    (hreader : ∀ since, since <+: changes → (t.replay since).role? h = some .reader) :
    (t.replay changes).probedAt? h = (Change.lastProbe? h changes).or (t.probedAt? h) := by
  induction changes using List.reverseRecOn with
  | nil => rfl
  | append_singleton changes last ih =>
    have hbefore := hreader changes (List.prefix_append _ _)
    have hafter := hreader (changes ++ [last]) List.prefix_rfl
    rw [replay_concat] at hafter
    rw [replay_concat, probedAt?_apply hbefore hafter,
      ih fun since hsince => hreader since (hsince.trans (List.prefix_append _ _)),
      Change.lastProbe?_append, Option.or_assoc]

/-- A probe since which the host stayed a reader, and which is the last one, is the one that its
record tells of. -/
theorem probedAt?_of_grounded {start : Tracker} {past : List Change} {h : String} {enabled : Bool}
    {time : Nat} (hgrounded : start.Grounded past h enabled time) :
    (start.replay past).probedAt? h = some time := by
  obtain ⟨before, after, rfl, hsince, hlast⟩ := hgrounded
  have hreader : ∀ since, since <+: .probed h enabled time :: after →
      ((start.replay before).replay since).role? h = some .reader := by
    intro since hprefix
    rcases List.prefix_cons_iff.mp hprefix with rfl | ⟨rest, rfl, hrest⟩
    · -- The probe itself changes no role.
      have hprobed := hsince [] List.nil_prefix
      rw [replay_concat, role?_apply] at hprobed
      exact hprobed
    · rw [← replay_append]
      exact hsince rest hrest
  have hprobe : Change.lastProbe? h (.probed h enabled time :: after) = some time := by
    rw [← List.singleton_append, Change.lastProbe?_append, Change.lastProbe?_eq_none hlast,
      Change.lastProbe?_probed]
    rfl
  rw [replay_append, probedAt?_replay hreader, hprobe]
  rfl

end Tracker

/-- A host is asked exactly while it is tracked as a reader and its last probe, if it has one, is
older than the interval. -/
theorem Watch.asksForwarding_iff {W : Type} {b : Backend W} {host : String} {s : Watch W} :
    asksForwarding b host s = true ↔ s.tracker.role? host = some .reader ∧
      ∀ time, s.tracker.probedAt? host = some time → time + s.tracker.interval < b.now s.world := by
  rw [asksForwarding, Tracker.role?, Tracker.probedAt?]
  cases s.tracker.record? host with
  | none => simp
  | some r =>
    obtain ⟨-, role, -, -, probedAt⟩ := r
    have hage (time : Nat) : s.tracker.interval < b.now s.world - time ↔
        time + s.tracker.interval < b.now s.world := by omega
    cases role <;> cases probedAt <;>
      simp [Tracker.needsProbe, HostRecord.isWriter, HostRecord.isStale, hage]

/-! ## The queries of a run -/

/-- When a query is asked, and when its outcome is written down. -/
def Inquiry.readings (q : Inquiry) : List Nat := [q.time, q.settled]

/-- The query as part of a longer history. -/
def Inquiry.afterwards (history : List Change) (q : Inquiry) : Inquiry :=
  { q with seen := history ++ q.seen }

namespace Site

variable {W : Type} (b : Backend W)

/-- The queries for write forwarding that a run asks, where `history` are the changes before it. -/
def inquiriesAfter (history : List Change) (s : Site W) : List (Operation W) → List Inquiry
  | [] => []
  | op :: rest =>
    ((op.inquiry? b s).map (·.afterwards history)).toList ++
      inquiriesAfter (history ++ op.changes b s) (perform b op s).state rest

/-- The queries for write forwarding that a run asks, each with the history of the host table up to
then. -/
def inquiries (s : Site W) (ops : List (Operation W)) : List Inquiry := inquiriesAfter b [] s ops

theorem inquiriesAfter_concat (history : List Change) (s : Site W) (ops : List (Operation W))
    (op : Operation W) :
    inquiriesAfter b history s (ops ++ [op]) =
      inquiriesAfter b history s ops ++
        ((op.inquiry? b (after b s ops)).map (·.afterwards (history ++ past b s ops))).toList := by
  induction ops generalizing history s with
  | nil => simp [inquiriesAfter, past, trail]
  | cons first rest ih =>
    have hpast : past b s (first :: rest) =
        first.changes b s ++ past b (perform b first s).state rest := rfl
    rw [List.cons_append, inquiriesAfter, ih, inquiriesAfter, hpast, List.append_assoc,
      List.append_assoc]
    rfl

theorem inquiries_concat (s : Site W) (ops : List (Operation W)) (op : Operation W) :
    inquiries b s (ops ++ [op]) =
      inquiries b s ops ++
        ((op.inquiry? b (after b s ops)).map (·.afterwards (past b s ops))).toList :=
  inquiriesAfter_concat b [] s ops op

theorem mem_inquiries_concat {s : Site W} {ops : List (Operation W)} {op : Operation W}
    {q : Inquiry} :
    q ∈ inquiries b s (ops ++ [op]) ↔
      q ∈ inquiries b s ops ∨
        ∃ asked, op.inquiry? b (after b s ops) = some asked ∧
          q = asked.afterwards (past b s ops) := by
  rw [inquiries_concat, List.mem_append, Option.mem_toList, Option.map_eq_some_iff]
  simp [eq_comm]

/-- The queries of a run are those among its events. -/
theorem inquirers_emitted (s : Site W) (ops : List (Operation W)) :
    Event.inquirers (emitted b s ops) = (inquiries b s ops).map (·.asker) := by
  induction ops using List.reverseRecOn with
  | nil => rfl
  | append_singleton ops op ih =>
    have hlast := inquirers_perform b op (after b s ops)
    rw [emitted] at ih ⊢
    rw [trail_concat, List.flatMap_append, Event.inquirers_append, ih, inquiries_concat,
      List.map_append, List.flatMap_singleton, hlast]
    cases op.inquiry? b (after b s ops) <;> rfl

variable {b} {s : Site W}

/-- A query is asked against a table of the history, and asked only as the interval allows. -/
theorem asked_of_mem_inquiries {ops : List (Operation W)} {q : Inquiry}
    (hq : q ∈ inquiries b s ops) :
    q.seen <+: past b s ops ∧ (s.gate.tracker.replay q.seen).role? q.host = some .reader ∧
      ∀ time, (s.gate.tracker.replay q.seen).probedAt? q.host = some time →
        time + s.gate.tracker.interval < q.time := by
  induction ops using List.reverseRecOn with
  | nil => cases hq
  | append_singleton ops op ih =>
    rw [past_concat]
    rcases (mem_inquiries_concat b).mp hq with hq | ⟨asked, hasked, rfl⟩
    · obtain ⟨hseen, hallowed⟩ := ih hq
      exact ⟨hseen.trans (List.prefix_append _ _), hallowed⟩
    · obtain ⟨-, hseen, -, watch, htable, htime, hasks⟩ := inquiry?_eq_some hasked
      obtain ⟨hreader, hold⟩ := Watch.asksForwarding_iff.mp hasks
      rw [htable, after_tracker, ← Tracker.replay_append] at hreader hold
      rw [Tracker.interval_replay, ← htime] at hold
      exact ⟨(List.prefix_append_right_inj _).mpr hseen, hreader, hold⟩

/-- When the clock does not go back, the history after a query goes on with the probe of the query,
and all probes in it are written down at the time of the query or later. -/
theorem followed_of_mem_inquiries {ops : List (Operation W)}
    (hclock : ((inquiries b s ops).flatMap Inquiry.readings).Pairwise (· ≤ ·)) {q : Inquiry}
    (hq : q ∈ inquiries b s ops) :
    ∃ rest, past b s ops = q.seen ++ rest ∧ q.outcome ∈ Change.probes rest ∧
      ∀ p ∈ Change.probes rest, q.time ≤ p.2 := by
  induction ops using List.reverseRecOn with
  | nil => cases hq
  | append_singleton ops op ih =>
    rw [inquiries_concat, List.flatMap_append, List.pairwise_append] at hclock
    obtain ⟨hbefore, hlast, hacross⟩ := hclock
    rw [past_concat]
    rcases (mem_inquiries_concat b).mp hq with hq | ⟨asked, hasked, rfl⟩
    · obtain ⟨rest, hpast, hown, hlater⟩ := ih hbefore hq
      refine ⟨rest ++ op.changes b (after b s ops), by rw [hpast, List.append_assoc], ?_, ?_⟩
      · rw [Change.probes_append]
        exact List.mem_append_left _ hown
      · intro p hp
        rw [Change.probes_append, probes_changes] at hp
        rcases List.mem_append.mp hp with hp | hp
        · exact hlater p hp
        · -- The probe of the last operation is that of its query.
          obtain ⟨asked, hasked, rfl⟩ := Option.map_eq_some_iff.mp (Option.mem_toList.mp hp)
          rw [hasked] at hacross
          refine hacross q.time (List.mem_flatMap.mpr ⟨q, hq, ?_⟩) asked.settled ?_
          · simp [Inquiry.readings]
          · simp [Inquiry.readings, Inquiry.afterwards]
    · -- The query is that of the last operation, and its own outcome comes after it.
      obtain ⟨-, ⟨rest, hchanges⟩, hunprobed, -⟩ := inquiry?_eq_some hasked
      have hprobes := probes_changes b op (after b s ops)
      rw [← hchanges, Change.probes_append, hunprobed, List.nil_append, hasked] at hprobes
      rw [hasked] at hlast
      have hsettled : asked.time ≤ asked.settled := by
        simpa [Inquiry.readings, Inquiry.afterwards] using hlast
      refine ⟨rest, ?_, ?_, ?_⟩
      · rw [← hchanges, Inquiry.afterwards, List.append_assoc]
      · rw [hprobes]
        simp [Inquiry.outcome, Inquiry.afterwards]
      · rw [hprobes]
        simpa [Inquiry.outcome, Inquiry.afterwards] using hsettled

/-- Two queries about a host that stays a reader between them are more than an interval apart. -/
theorem spaced_of_reader {ops : List (Operation W)}
    (hclock : ((inquiries b s ops).flatMap Inquiry.readings).Pairwise (· ≤ ·)) :
    (inquiries b s ops).Pairwise fun q q' => q'.host = q.host →
      (∀ seen, q.seen <+: seen → seen <+: q'.seen →
        (s.gate.tracker.replay seen).role? q.host = some .reader) →
      q.time + s.gate.tracker.interval < q'.time := by
  induction ops using List.reverseRecOn with
  | nil => exact .nil
  | append_singleton ops op ih =>
    have hbefore : ((inquiries b s ops).flatMap Inquiry.readings).Pairwise (· ≤ ·) := by
      rw [inquiries_concat, List.flatMap_append] at hclock
      exact (List.pairwise_append.mp hclock).1
    rw [inquiries_concat, List.pairwise_append]
    refine ⟨ih hbefore, ?_, fun q hq q' hq' hhost hreader => ?_⟩
    · cases op.inquiry? b (after b s ops) <;> simp
    · obtain ⟨asked, hasked, rfl⟩ := Option.map_eq_some_iff.mp (Option.mem_toList.mp hq')
      obtain ⟨rest, hpast, hown, hlater⟩ := followed_of_mem_inquiries hbefore hq
      obtain ⟨-, -, hunprobed, -⟩ := inquiry?_eq_some hasked
      obtain ⟨-, -, hold⟩ :=
        asked_of_mem_inquiries ((mem_inquiries_concat b).mpr (.inr ⟨asked, hasked, rfl⟩))
      have hseen : (asked.afterwards (past b s ops)).seen = q.seen ++ (rest ++ asked.seen) := by
        rw [Inquiry.afterwards, hpast, List.append_assoc]
      have hprobes : Change.probes (rest ++ asked.seen) = Change.probes rest := by
        rw [Change.probes_append, hunprobed, List.append_nil]
      rw [hseen] at hreader hold
      -- Since the first query the record has the time of the last probe, which is not older.
      have hrecord : (s.gate.tracker.replay (q.seen ++ (rest ++ asked.seen))).probedAt? q.host =
          (Change.lastProbe? q.host (rest ++ asked.seen)).or
            ((s.gate.tracker.replay q.seen).probedAt? q.host) := by
        rw [Tracker.replay_append]
        refine Tracker.probedAt?_replay fun since hsince => ?_
        rw [← Tracker.replay_append]
        exact hreader _ (List.prefix_append _ _) ((List.prefix_append_right_inj _).mpr hsince)
      obtain ⟨last, hlast, hmem⟩ := Change.exists_lastProbe? (hprobes ▸ hown)
      have hage := hold last (by rw [hhost, hrecord, hlast]; rfl)
      have hlate : q.time ≤ last := hlater _ (hprobes ▸ hmem)
      omega

/-- What a run asks about write forwarding. An operation asks at most once, and it is a connect to
the host that succeeds, or a statement in strict-writer mode on a connection to the host; other
calls never ask. It asks while the host is tracked as a reader, and when more than the interval has
passed since the last probe of the host that was written down since it was last added or changed its
role, if there was one. So when the clock does not go back, two queries about a host that stays a
reader between them are more than an interval apart. -/
theorem inquiries_disciplined {config : Config} {gate : Gate}
    (hnew : Gate.ofConfig config = .ok gate) (world : W) (ops : List (Operation W)) :
    let start : Site W := ⟨gate, world⟩
    let asked := inquiries b start ops
    Event.inquirers (emitted b start ops) = asked.map (·.asker) ∧
      (∀ m ∈ trail b start ops,
        let queries := Event.inquirers (perform b m.operation m.site).events
        queries = ((m.operation.inquiry? b m.site).map (·.asker)).toList ∧
          (∀ q, m.operation.inquiry? b m.site = some q →
            m.operation.AsksAbout b m.site q.asker q.host) ∧
          ∀ target request, m.operation = .call target request →
            request.method.runsStatement = false ∨ (request.mode? m.site.gate.space).isSome ∨
              m.site.gate.isStrict target.owner = false → queries = []) ∧
      (∀ q ∈ asked, q.seen <+: past b start ops ∧
        (gate.tracker.replay q.seen).role? q.host = some .reader ∧
        ∀ enabled time, gate.tracker.Grounded q.seen q.host enabled time →
          time + config.intervalNanos < q.time) ∧
      ((asked.flatMap Inquiry.readings).Pairwise (· ≤ ·) →
        asked.Pairwise fun q q' => q'.host = q.host →
          (∀ seen, q.seen <+: seen → seen <+: q'.seen →
            (gate.tracker.replay seen).role? q.host = some .reader) →
          q.time + config.intervalNanos < q'.time) := by
  intro start asked
  have hinterval : gate.tracker.interval = config.intervalNanos := by
    obtain ⟨space, rfl⟩ := Gate.ofConfig_eq hnew
    rfl
  rw [← hinterval]
  refine ⟨inquirers_emitted b start ops, fun m _ => ?_, fun q hq => ?_, spaced_of_reader⟩
  · have hqueries := inquirers_perform b m.operation m.site
    refine ⟨hqueries, fun q hq => (inquiry?_eq_some hq).1, fun target request hop hquiet => ?_⟩
    rw [hqueries, hop]
    cases hasks : (Operation.call target request).inquiry? b m.site with
    | none => rfl
    | some q =>
      have hwho := (inquiry?_eq_some hasks).1
      generalize q.asker = id, q.host = host at hwho
      cases hwho with
      | statement hheld hstrict hstatement hcommand =>
        -- A statement asks only if it is checked, and a quiet call is not.
        rw [connection?_id hheld] at hstrict
        rw [hstatement, hcommand, hstrict] at hquiet
        simp at hquiet
  · obtain ⟨hseen, hreader, hold⟩ := asked_of_mem_inquiries hq
    exact ⟨hseen, hreader, fun enabled time hgrounded =>
      hold time (Tracker.probedAt?_of_grounded hgrounded)⟩

/-- A reader that is connected to twice, and written to on the second connection. The first write
comes exactly an interval after the probe of the first connection. -/
def patient : List (Operation Nat) :=
  let write : Operation Nat := .call (.connection ⟨1⟩) (.executeUpdate "insert")
  [.connect "jdbc" ⟨"db", 5432, .reader⟩ ∅, .connect "jdbc" ⟨"db", 5432, .reader⟩ ∅,
    .call (.connection ⟨1⟩) (.execute "SET SESSION ns.strict_writer = true"),
    .elapse 60000000002, write, write, write]

/-- The second write asks again, and it is the only one that does. -/
theorem inquiries_disciplined_patient :
    let asked := inquiries (.moving [⟨"db", 5432, .reader⟩]) ⟨.plain, 0⟩ patient
    ∃ q q', asked = [q, q'] ∧ q'.time = 60000000003 ∧
      q.time + Config.plain.intervalNanos < q'.time := by
  intro asked
  have hrun : ∃ q q', asked = [q, q'] ∧ q'.time = 60000000003 ∧ q'.host = q.host ∧
      (asked.flatMap Inquiry.readings).Pairwise (· ≤ ·) ∧
      ∀ seen ∈ q'.seen.inits, q.seen <+: seen →
        (Gate.plain.tracker.replay seen).role? q.host = some .reader := by
    refine ⟨_, _, rfl, ?_⟩
    decide +kernel
  obtain ⟨q, q', hasked, htime, hhost, hclock, hreader⟩ := hrun
  obtain ⟨-, -, -, hspaced⟩ :=
    inquiries_disciplined (b := .moving [⟨"db", 5432, .reader⟩]) Gate.ofConfig_plain 0 patient
  have hpairs := hspaced hclock
  change asked.Pairwise _ at hpairs
  rw [hasked] at hpairs
  have hpair := (List.pairwise_cons.mp hpairs).1 q' List.mem_cons_self hhost
  exact ⟨q, q', hasked, htime, hpair fun seen hlow hhigh =>
    hreader seen ((List.mem_inits seen q'.seen).mpr hhigh) hlow⟩

end Site

end ClusterGate
