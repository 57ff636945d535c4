import ClusterGate.Proofs.SessionHistory

/-!
# Sweeping late and sweeping at once

The store of session attributes sweeps late: an entry whose owner has ended stays until the next
write or purge. This module sets it beside a store that takes an entry away at the moment when the
owner that it is tied to ends. The late store, once swept, is always the prompt one
(`TwinStores.Matched`), so the two differ by orphans only, and not at all after a write or a purge
(`TwinStores.late_store_exact`).

An owner that has ended cannot be handed over any more, since nobody holds it
(`TwinStores.Admits`). Without this the two stores would differ: an entry tied to an owner that has
ended already is an orphan from the beginning, and no end of its owner is left to take it away.
-/

namespace ClusterGate

/-! ## What happens to a store -/

/-- Something that is done to a store of session attributes, or the end of an owner. -/
inductive StoreCall
  | set (id : ConnectionId) (key value : String)
  | setOwned (id : ConnectionId) (owner : Owner) (key value : String)
  | get (id : ConnectionId) (key : String)
  | clear (id : ConnectionId)
  | purge
  | drop (owner : Owner)
  deriving DecidableEq, Repr

namespace StoreCall

/-- Writes and purges sweep orphans away. -/
def sweeps : StoreCall → Bool
  | set .. | setOwned .. | purge => true
  | get .. | clear _ | drop _ => false

/-- The call can be made when these owners have ended: whoever hands an owner over holds it. -/
def isPossible (ended : List Owner) : StoreCall → Bool
  | setOwned _ owner _ _ => !ended.contains owner
  | _ => true

def endedAfter (ended : List Owner) : StoreCall → List Owner
  | drop owner => owner :: ended
  | _ => ended

end StoreCall

namespace Sessions

/-- The store after a call, where these owners have ended before it. -/
def step (ended : List Owner) (s : Sessions) : StoreCall → Sessions
  | .set id key value => s.set (fun o => !ended.contains o) id none key value
  | .setOwned id owner key value => s.set (fun o => !ended.contains o) id (some owner) key value
  | .clear id => s.clear id
  | .purge => s.purge fun o => !ended.contains o
  | .get .. | .drop _ => s

/-- The prompt store after a call. A write without an owner keeps the tie of the entry, and one with
an owner replaces it. The end of an owner takes the entries away that are tied to it. -/
def promptStep (s : Sessions) : StoreCall → Sessions
  | .set id key value =>
    match s.find? id with
    | some e => ⟨s.entries.insert id ⟨e.attributes.insert key value, e.owner⟩⟩
    | none => ⟨s.entries.insert id ⟨(∅ : Dict String String).insert key value, none⟩⟩
  | .setOwned id owner key value =>
    match s.find? id with
    | some e => ⟨s.entries.insert id ⟨e.attributes.insert key value, some owner⟩⟩
    | none => ⟨s.entries.insert id ⟨(∅ : Dict String String).insert key value, some owner⟩⟩
  | .clear id => ⟨s.entries.erase id⟩
  | .drop owner => ⟨s.entries.filter fun _ e => e.owner ≠ some owner⟩
  | .get .. | .purge => s

/-! ## Sweeps -/

variable {alive : Owner → Bool} {s : Sessions}

/-- Nothing that a sweep leaves is an orphan. -/
theorem isOrphan_of_mem_purge {entry : ConnectionId × SessionEntry}
    (h : entry ∈ (s.purge alive).entries.entries) : entry.2.isOrphan alive = false := by
  simpa using (List.mem_filter.mp h).2

/-- A store that was just swept has nothing to sweep. -/
theorem purge_purge (alive : Owner → Bool) (s : Sessions) :
    (s.purge alive).purge alive = s.purge alive :=
  purge_eq_self fun _ h => isOrphan_of_mem_purge h

/-- Clearing and sweeping may come in any order. -/
theorem purge_clear (alive : Owner → Bool) (s : Sessions) (id : ConnectionId) :
    (s.clear id).purge alive = (s.purge alive).clear id := by
  simp only [purge, clear, Dict.erase, Dict.filter, List.filter_filter, Bool.and_comm]

/-- A sweep after the end of an owner leaves what one before it leaves, but for the entries that are
tied to this owner. -/
theorem purge_drop (ended : List Owner) (owner : Owner) (s : Sessions) :
    (s.purge fun o => !(owner :: ended).contains o) =
      (s.purge fun o => !ended.contains o).promptStep (.drop owner) := by
  simp only [purge, promptStep, Dict.filter, List.filter_filter]
  congr 3
  funext entry
  cases htie : entry.2.owner <;> simp [SessionEntry.isOrphan, htie]

/-- After a write with an owner that is there, or without one, a sweep finds nothing. -/
theorem purge_set {owner : Option Owner} (howner : ∀ o, owner = some o → alive o = true)
    (s : Sessions) (id : ConnectionId) (key value : String) :
    (s.set alive id owner key value).purge alive = s.set alive id owner key value := by
  refine purge_eq_self fun entry hentry => ?_
  rcases Dict.mem_insertEntry hentry with rfl | hentry
  · -- The entry is tied to the owner of the write, or as it was after the sweep.
    have hbefore : (((s.purge alive).find? id).getD .empty).isOrphan alive = false := by
      cases hfound : (s.purge alive).find? id with
      | none => rfl
      | some before => exact isOrphan_of_mem_purge (Dict.mem_entries_of_get? hfound)
    cases owner with
    | none => exact hbefore
    | some o => simp [SessionEntry.isOrphan, SessionEntry.set, howner o rfl]
  · exact isOrphan_of_mem_purge hentry

/-- A call that sweeps does so first, and then does what it does to the prompt store. -/
theorem step_eq_promptStep {call : StoreCall} (hsweeps : call.sweeps = true) (ended : List Owner)
    (s : Sessions) :
    s.step ended call = (s.purge fun o => !ended.contains o).promptStep call := by
  cases call with
  | set id =>
    rw [step, set, promptStep]
    cases (s.purge fun o => !ended.contains o).find? id <;> rfl
  | setOwned id =>
    rw [step, set, promptStep]
    cases (s.purge fun o => !ended.contains o).find? id <;> rfl
  | purge => rfl
  | get | clear | drop => cases hsweeps

/-- In a store with one entry for each connection a sweep leaves the entries without an owner and
those whose owner is there. -/
theorem find?_purge_iff (hs : s.entries.WellOrdered) {id : ConnectionId} {e : SessionEntry} :
    (s.purge alive).find? id = some e ↔
      s.find? id = some e ∧ ∀ o, e.owner = some o → alive o = true := by
  refine (Dict.get?_filter_iff hs.nodup _).trans (and_congr_right fun _ => ?_)
  cases howner : e.owner <;> simp [SessionEntry.isOrphan, howner]

/-- A sweep takes as many entries away as there are connections that lose theirs. -/
theorem orphans_eq (alive : Owner → Bool) (hs : s.entries.WellOrdered) :
    s.orphans alive =
      (s.entries.keys.filter fun id => ((s.purge alive).find? id).isNone).length := by
  have hlost : ∀ entry ∈ s.entries.entries,
      ((s.purge alive).find? entry.1).isNone = entry.2.isOrphan alive := by
    intro ⟨id, e⟩ hentry
    have hfound : s.find? id = some e := Dict.get?_of_mem_entries hs.nodup hentry
    cases horphan : e.isOrphan alive with
    | false =>
      have hkept : (s.purge alive).find? id = some e :=
        (Dict.get?_filter_iff hs.nodup _).mpr ⟨hfound, by simp [horphan]⟩
      rw [hkept]
      rfl
    | true =>
      rw [Option.isNone_iff_eq_none, Option.eq_none_iff_forall_ne_some]
      intro e' he'
      obtain ⟨hfound', hkept⟩ := (Dict.get?_filter_iff hs.nodup _).mp he'
      obtain rfl : e = e' := Option.some.inj (hfound.symm.trans hfound')
      simp [horphan] at hkept
  have hsplit := List.length_eq_length_filter_add (l := s.entries.entries) fun entry =>
    entry.2.isOrphan alive
  rw [Dict.keys, List.filter_map, List.length_map]
  show s.entries.entries.length - _ = (s.entries.entries.filter fun entry =>
    ((s.purge alive).find? entry.1).isNone).length
  rw [List.filter_congr hlost]
  rw [hsplit, purge, Dict.filter]
  exact Nat.add_sub_cancel _ _

end Sessions

/-! ## The late store and the prompt one -/

/-- The same history in two stores, one of which sweeps late. -/
structure TwinStores where
  ended : List Owner
  late : Sessions
  prompt : Sessions
  deriving DecidableEq, Repr

namespace TwinStores

def alive (t : TwinStores) (o : Owner) : Bool := !t.ended.contains o

def new : TwinStores := ⟨[], .empty, .empty⟩

def step (t : TwinStores) (call : StoreCall) : TwinStores :=
  ⟨call.endedAfter t.ended, t.late.step t.ended call, t.prompt.promptStep call⟩

/-- The two stores after a history that begins when they are new. -/
def after (past : List StoreCall) : TwinStores := past.foldl step new

/-- Each call of a history hands over only owners that have not ended before it. -/
def Admits (t : TwinStores) : List StoreCall → Prop
  | [] => True
  | call :: rest => call.isPossible t.ended = true ∧ (t.step call).Admits rest

instance decidableAdmits : (t : TwinStores) → (past : List StoreCall) → Decidable (t.Admits past)
  | _, [] => .isTrue trivial
  | t, call :: rest =>
    have := decidableAdmits (t.step call) rest
    inferInstanceAs (Decidable (call.isPossible t.ended = true ∧ (t.step call).Admits rest))

/-- The prompt store is the late one, swept. -/
structure Matched (t : TwinStores) : Prop where
  swept : t.prompt = t.late.purge t.alive
  ordered : t.late.entries.WellOrdered

variable {t : TwinStores}

theorem matched_new : new.Matched := ⟨rfl, Dict.wellOrdered_empty⟩

/-- After a call that sweeps the two stores are equal. -/
theorem Matched.step_eq (h : t.Matched) {call : StoreCall} (hsweeps : call.sweeps = true) :
    (t.step call).late = (t.step call).prompt := by
  rw [step, h.swept]
  exact Sessions.step_eq_promptStep hsweeps t.ended t.late

/-- A possible call keeps the two stores matched. -/
theorem Matched.step (h : t.Matched) {call : StoreCall}
    (hpossible : call.isPossible t.ended = true) : (t.step call).Matched := by
  have hordered : (t.late.purge t.alive).entries.WellOrdered := h.ordered.filter _
  -- After a call that sweeps the stores are equal, and it is left to show that no orphan is there.
  cases call with
  | set id key value =>
    refine ⟨?_, hordered.insert id _⟩
    rw [← h.step_eq rfl]
    exact (Sessions.purge_set (fun _ ho => by cases ho) t.late id key value).symm
  | setOwned id owner key value =>
    refine ⟨?_, hordered.insert id _⟩
    rw [← h.step_eq rfl]
    refine (Sessions.purge_set (fun o ho => ?_) t.late id key value).symm
    obtain rfl : owner = o := Option.some.inj ho
    exact hpossible
  | get id key => exact ⟨h.swept, h.ordered⟩
  | clear id =>
    refine ⟨?_, h.ordered.erase id⟩
    show t.prompt.clear id = (t.late.clear id).purge t.alive
    rw [h.swept, Sessions.purge_clear]
  | purge =>
    refine ⟨?_, hordered⟩
    rw [← h.step_eq rfl]
    exact (Sessions.purge_purge t.alive t.late).symm
  | drop owner =>
    -- The late store stays as it is; a sweep would now take more away.
    refine ⟨?_, h.ordered⟩
    rw [TwinStores.step, h.swept]
    exact (Sessions.purge_drop t.ended owner t.late).symm

/-- The two stores stay matched along every history that is admitted. -/
theorem Matched.foldl (h : t.Matched) {past : List StoreCall} (hadmits : t.Admits past) :
    (past.foldl TwinStores.step t).Matched := by
  induction past generalizing t with
  | nil => exact h
  | cons call rest ih => exact ih (h.step hadmits.1) hadmits.2

theorem admits_of_append {past rest : List StoreCall} (h : t.Admits (past ++ rest)) :
    t.Admits past := by
  induction past generalizing t with
  | nil => trivial
  | cons call past ih => exact ⟨h.1, ih h.2⟩

theorem alive_iff {o : Owner} : t.alive o = true ↔ o ∉ t.ended := by
  simp [alive]

/-- The prompt store has the entries of the late one that are not orphans. -/
theorem Matched.find?_iff (h : t.Matched) {id : ConnectionId} {e : SessionEntry} :
    t.prompt.find? id = some e ↔
      t.late.find? id = some e ∧ ∀ o, e.owner = some o → o ∉ t.ended := by
  simp only [h.swept, Sessions.find?_purge_iff h.ordered, alive_iff]

/-- A write replaces nothing but the orphan that was in its place. -/
theorem Matched.find?_set (h : t.Matched) (id id' : ConnectionId) (owner : Option Owner)
    (key value : String) :
    (t.late.set t.alive id owner key value).find? id' =
      if id' = id then some (((t.prompt.find? id).getD .empty).set owner key value)
      else t.prompt.find? id' := by
  rw [Sessions.find?_set, h.swept]

/-- A late store is an exact stand-in for a prompt one, whatever is done to it. The two are equal
after every call that sweeps; in between the late store has, beside the entries of the prompt one,
exactly entries whose owner has ended, and a sweep tells their number. A sweep, that of a write
included, leaves every entry that has no owner or one that has not ended, and a write to a
connection whose entry is tied to an ended owner begins with no attribute. -/
theorem late_store_exact (past : List StoreCall) (hpast : new.Admits past) :
    let t := after past
    (∀ call, past.getLast? = some call → call.sweeps = true → t.late = t.prompt) ∧
    (∀ id e, t.prompt.find? id = some e ↔
      t.late.find? id = some e ∧ ∀ o, e.owner = some o → o ∉ t.ended) ∧
    t.late.orphans t.alive =
      (t.late.entries.keys.filter fun id => (t.prompt.find? id).isNone).length ∧
    (∀ id e, t.late.find? id = some e → (∀ o, e.owner = some o → o ∉ t.ended) →
      (t.late.purge t.alive).find? id = some e ∧
      ∀ id' owner key value, (t.late.set t.alive id' owner key value).find? id =
        some (if id = id' then e.set owner key value else e)) ∧
    (∀ id e o, t.late.find? id = some e → e.owner = some o → o ∈ t.ended →
      ∀ owner key value, (t.late.set t.alive id owner key value).find? id =
        some ⟨(∅ : Dict String String).insert key value, owner⟩) := by
  intro t
  have h : t.Matched := matched_new.foldl hpast
  refine ⟨?equal, fun id e => h.find?_iff, ?number, ?kept, ?fresh⟩
  case equal =>
    intro call hlast hsweeps
    obtain ⟨before, hbefore⟩ := List.getLast?_eq_some_iff.mp hlast
    have hprevious : (after before).Matched :=
      matched_new.foldl (admits_of_append (hbefore ▸ hpast))
    -- The store before the last call need not be swept: the call does that.
    have ht : t = (after before).step call := by simp [t, after, hbefore]
    rw [ht]
    exact hprevious.step_eq hsweeps
  case number =>
    rw [h.swept]
    exact Sessions.orphans_eq t.alive h.ordered
  case kept =>
    intro id e hfound htied
    have hprompt : t.prompt.find? id = some e := h.find?_iff.mpr ⟨hfound, htied⟩
    refine ⟨h.swept ▸ hprompt, fun id' owner key value => ?_⟩
    rw [h.find?_set]
    split
    · next hid => rw [← hid, hprompt, Option.getD_some]
    · exact hprompt
  case fresh =>
    intro id e o hfound htied hended owner key value
    have hprompt : t.prompt.find? id = none := by
      rw [Option.eq_none_iff_forall_ne_some]
      intro e' he'
      obtain ⟨hfound', hlive⟩ := h.find?_iff.mp he'
      obtain rfl : e = e' := Option.some.inj (hfound.symm.trans hfound')
      exact hlive o htied hended
    rw [h.find?_set, if_pos rfl, hprompt, Option.getD_none]
    cases owner <;> rfl

/-- Two owners and two connections: the write without an owner keeps the tie of the entry, so that
the end of the owner takes the entry from the prompt store at once. The late store keeps it until
the next write, which begins anew. -/
theorem late_store_exact_reused :
    let past : List StoreCall :=
      [.setOwned ⟨0⟩ ⟨7⟩ "strict-writer" "true", .setOwned ⟨1⟩ ⟨8⟩ "strict-writer" "true",
        .set ⟨0⟩ "zone" "a", .drop ⟨7⟩]
    (after past).late.size = 2 ∧ (after past).prompt.size = 1 ∧
    (after past).late.orphans (after past).alive = 1 ∧
    ((after past).late.set (after past).alive ⟨0⟩ none "zone" "b").find? ⟨0⟩ =
      some ⟨(∅ : Dict String String).insert "zone" "b", none⟩ := by
  intro past
  have hexact := late_store_exact past (by decide)
  refine ⟨by decide, by decide, ?_, ?_⟩
  · rw [hexact.2.2.1]
    decide
  · exact hexact.2.2.2.2 ⟨0⟩ _ ⟨7⟩ rfl rfl (by decide) none "zone" "b"

end TwinStores

end ClusterGate
