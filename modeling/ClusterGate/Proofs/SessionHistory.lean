import ClusterGate.Proofs.Dictionary
import ClusterGate.Proofs.Run

/-!
# Session attributes and the history of a connection

The store of session attributes is written by every control command, swept at every write, cleared
by closes, failed connects and releases, and swept again by releases. All the same it holds only
what the held connections did themselves: a connection has an entry if it consumed a command after
its last close, and the entry has the mode that the last such command set (`Gate.Recorded`).

The reason is that an entry is never an orphan while its handle is held. A release sweeps while the
handle that is given up still counts as held, but its entry was cleared before, so the sweeps find
nothing.
-/

namespace ClusterGate

/-! ## The order of lifetimes -/

instance : Std.Irrefl (fun a b : ConnectionId => a < b) := ⟨fun a => Nat.lt_irrefl a.number⟩

instance : Trans (fun a b : ConnectionId => a < b) (fun a b : ConnectionId => a < b)
    (fun a b : ConnectionId => a < b) :=
  ⟨fun {a b c} (hab : a.number < b.number) (hbc : b.number < c.number) => Nat.lt_trans hab hbc⟩

instance : Std.Trichotomous (fun a b : ConnectionId => a < b) where
  trichotomous a b hab hba := by
    have heq : a.number = b.number := Nat.le_antisymm (Nat.not_lt.mp hba) (Nat.not_lt.mp hab)
    cases a
    cases b
    exact congrArg _ heq

/-! ## The mode that a history leaves -/

/-- What a call does to the mode of its connection: a control command sets it, a close takes it
back, and no other call counts. -/
def Request.modeChange? (space : Namespace) (request : Request) : Option (Option Bool) :=
  match request.mode? space with
  | some enabled => some (some enabled)
  | none => if request.method = .close then some none else none

/-- What an operation does to the mode of a connection. Only calls on the connection and on its
statements count, and only while the connection is held. -/
def Gate.modeStep? {W : Type} (g : Gate) (id : ConnectionId) : Operation W → Option (Option Bool)
  | .call target request =>
    if target.owner = id ∧ (g.connection? id).isSome then request.modeChange? g.space else none
  | _ => none

/-- A call on a held connection changes the mode of that connection only. -/
theorem Gate.modeStep?_call (W : Type) {g : Gate} {target : Target}
    (hheld : (g.connection? target.owner).isSome) (mode : ConnectionId → Option Bool)
    (request : Request) :
    (fun id => (g.modeStep? (W := W) id (.call target request)).getD (mode id)) =
      match request.modeChange? g.space with
      | some changed => Function.update mode target.owner changed
      | none => mode := by
  funext id
  by_cases hid : target.owner = id
  · subst hid
    cases hchange : request.modeChange? g.space <;> simp [modeStep?, hheld, hchange]
  · have hother : (g.modeStep? (W := W) id (.call target request)) = none :=
      if_neg fun hboth => hid hboth.1
    rw [hother]
    cases request.modeChange? g.space with
    | none => rfl
    | some changed => exact (Function.update_of_ne (Ne.symm hid) changed mode).symm

/-- The mode of a connection that is not held stays as it was. -/
theorem Gate.modeStep?_gone (W : Type) {g : Gate} {target : Target}
    (hgone : g.connection? target.owner = none) (id : ConnectionId) (request : Request) :
    g.modeStep? (W := W) id (.call target request) = none := by
  refine if_neg fun ⟨hid, hheld⟩ => ?_
  rw [← hid, hgone] at hheld
  cases hheld

namespace Site

variable {W : Type} (b : Backend W)

/-- The mode that the last control command on a connection set, if there was one after the last
close of the connection. -/
def modeOf (s : Site W) (ops : List (Operation W)) (id : ConnectionId) : Option Bool :=
  ((trail b s ops).filterMap fun m => m.site.gate.modeStep? id m.operation).getLast?.join

theorem modeOf_concat (s : Site W) (ops : List (Operation W)) (op : Operation W)
    (id : ConnectionId) :
    modeOf b s (ops ++ [op]) id =
      ((after b s ops).gate.modeStep? id op).getD (modeOf b s ops id) := by
  rw [modeOf, trail_concat, List.filterMap_append, List.getLast?_append]
  cases hstep : (after b s ops).gate.modeStep? id op <;> simp [modeOf, hstep]

end Site

/-! ## What the store holds -/

/-- The entry of a connection in a mode. -/
def SessionEntry.ofMode (id : ConnectionId) (enabled : Bool) : SessionEntry :=
  ⟨(∅ : Dict String String).insert Command.modeAttribute (Command.modeValue enabled),
    some id.owner⟩

/-- Whatever mode was there before, a command leaves the entry of the mode that it sets. -/
theorem SessionEntry.set_ofMode (id : ConnectionId) (previous : Option Bool) (enabled : Bool) :
    (((previous.map (ofMode id)).getD .empty).set id.owner Command.modeAttribute
      (Command.modeValue enabled)) = ofMode id enabled := by
  cases previous with
  | none => rfl
  | some before =>
    show SessionEntry.mk (((∅ : Dict String String).insert _ _).insert _ _) _ = _
    rw [Dict.insert_insert_self]
    rfl

/-- There is no entry to be cleared. -/
theorem Sessions.clear_of_unset {sessions : Sessions} {id : ConnectionId}
    (h : sessions.find? id = none) : sessions.clear id = sessions := by
  have hkept : sessions.entries.erase id = sessions.entries := by
    refine Dict.filter_eq_self _ fun ⟨key, entry⟩ hmem => ?_
    -- An entry under this key would be found.
    have hne : key ≠ id := by
      rintro rfl
      have hkey : key ∈ sessions.entries.keys := List.mem_map.mpr ⟨_, hmem, rfl⟩
      have hfound := Dict.mem_keys_iff.mp hkey
      rw [show sessions.entries.get? key = none from h] at hfound
      cases hfound
    exact bne_iff_ne.mpr hne
  rw [Sessions.clear, hkept]

/-- A sweep that finds no orphan changes nothing. -/
theorem Sessions.purge_eq_self {alive : Owner → Bool} {sessions : Sessions}
    (h : ∀ entry ∈ sessions.entries.entries, entry.2.isOrphan alive = false) :
    sessions.purge alive = sessions := by
  rw [purge, Dict.filter_eq_self _ fun entry hentry => by simp [h entry hentry]]

namespace Gate

/-- The session store holds the modes of the connections that are held, and nothing else. Lifetimes
that were not begun have no mode. -/
structure Recorded (g : Gate) (mode : ConnectionId → Option Bool) : Prop where
  numbered : g.Numbered
  ordered : g.sessions.entries.WellOrdered
  entry : ∀ id, g.sessions.find? id =
    if (g.connection? id).isSome then (mode id).map (.ofMode id) else none
  unbegun : ∀ id : ConnectionId, g.minted ≤ id.number → mode id = none

/-- While a connection is held its session has a living owner. -/
theorem isAlive_owner {g : Gate} {id : ConnectionId} (h : (g.connection? id).isSome) :
    g.isAlive id.owner = true := by
  obtain ⟨connection, hheld, hid⟩ := List.find?_isSome.mp h
  refine List.any_eq_true.mpr ⟨connection, hheld, ?_⟩
  simpa using congrArg ConnectionId.owner (of_decide_eq_true hid)

namespace Recorded

variable {g : Gate} {mode : ConnectionId → Option Bool}

/-- No sweep finds an orphan. -/
theorem purge_eq (h : g.Recorded mode) : g.sessions.purge g.isAlive = g.sessions := by
  refine Sessions.purge_eq_self fun ⟨id, e⟩ he => ?_
  have hfound : g.sessions.find? id = some e := Dict.get?_of_mem_entries h.ordered.nodup he
  rw [h.entry] at hfound
  split at hfound
  · next hheld =>
    obtain ⟨enabled, -, rfl⟩ := Option.map_eq_some_iff.mp hfound
    simp [SessionEntry.isOrphan, SessionEntry.ofMode, isAlive_owner hheld]
  · cases hfound

/-- Handles and lifetimes stay, and the store has the entries of the new modes. -/
theorem of_alike (h : g.Recorded mode) {g' : Gate} (halike : g.Alike g')
    {mode' : ConnectionId → Option Bool} (hordered : g'.sessions.entries.WellOrdered)
    (hentry : ∀ id, g'.sessions.find? id =
      if (g.connection? id).isSome then (mode' id).map (.ofMode id) else none)
    (hunbegun : ∀ id : ConnectionId, g.minted ≤ id.number → mode' id = none) :
    g'.Recorded mode' := by
  refine ⟨h.numbered.of_alike halike, hordered, fun id => ?_, fun id hid => ?_⟩
  · rw [hentry, connection?, connection?, halike.handles]
  · rw [halike.minted] at hid
    exact hunbegun id hid

theorem of_same (h : g.Recorded mode) {g' : Gate} (halike : g.Alike g')
    (hsessions : g'.sessions = g.sessions) : g'.Recorded mode := by
  refine h.of_alike halike ?_ ?_ h.unbegun
  · rw [hsessions]
    exact h.ordered
  · rw [hsessions]
    exact h.entry

/-- A command on a held connection sets its mode. -/
theorem set (h : g.Recorded mode) {id : ConnectionId} (hheld : (g.connection? id).isSome)
    {enabled : Bool} {g' : Gate} (halike : g.Alike g')
    (hsessions : g'.sessions = (g.setMode id enabled).sessions) :
    g'.Recorded (Function.update mode id (some enabled)) := by
  have hset : g'.sessions = ⟨g.sessions.entries.insert id (.ofMode id enabled)⟩ := by
    have hprevious := h.entry id
    rw [if_pos hheld] at hprevious
    -- The sweep before the write takes nothing away.
    rw [hsessions, setMode, Sessions.set, h.purge_eq, hprevious, SessionEntry.set_ofMode]
  refine h.of_alike halike ?_ (fun id' => ?_) fun id' hid' => ?_
  · rw [hset]
    exact h.ordered.insert id _
  · have hother := h.entry id'
    simp only [Sessions.find?] at hother
    simp only [hset, Sessions.find?, Dict.get?_insert]
    by_cases heq : id' = id
    · subst heq
      simp [hheld]
    · simp [heq, hother]
  · -- A held connection was begun.
    have hne : id' ≠ id := by
      rintro rfl
      rw [h.numbered.connection?_fresh hid'] at hheld
      cases hheld
    rw [Function.update_of_ne hne]
    exact h.unbegun id' hid'

/-- Clearing the session of a connection takes its mode back. -/
theorem clear (h : g.Recorded mode) (id : ConnectionId) {g' : Gate} (halike : g.Alike g')
    (hsessions : g'.sessions = g.sessions.clear id) :
    g'.Recorded (Function.update mode id none) := by
  refine h.of_alike halike ?_ (fun id' => ?_) fun id' hid' => ?_
  · rw [hsessions]
    exact h.ordered.erase id
  · rw [hsessions, Sessions.find?_clear, h.entry]
    by_cases heq : id' = id <;> simp [heq]
  · by_cases heq : id' = id
    · simp [heq]
    · rw [Function.update_of_ne heq]
      exact h.unbegun id' hid'

/-! ## Reading the store -/

/-- The attribute of a held connection is the mode that its history left. -/
theorem attribute?_eq (h : g.Recorded mode) {connection : Connection}
    (hheld : connection ∈ g.handles) :
    g.attribute? connection.id Command.modeAttribute =
      (mode connection.id).map Command.modeValue := by
  rw [attribute?, Sessions.get?, h.entry, h.numbered.connection?_eq hheld]
  cases mode connection.id with
  | none => rfl
  | some enabled => exact Dict.get?_insert ∅ Command.modeAttribute _ _

/-- The connections in strict-writer mode are held, and their history left that mode. -/
theorem isStrict_iff (h : g.Recorded mode) {id : ConnectionId} :
    g.isStrict id = true ↔ (g.connection? id).isSome ∧ mode id = some true := by
  rw [isStrict, attribute?, Sessions.get?, h.entry]
  by_cases hheld : (g.connection? id).isSome
  · rw [if_pos hheld]
    cases hmode : mode id with
    | none => simp [Policy.isStrict]
    | some enabled =>
      have hattribute : (SessionEntry.ofMode id enabled).attributes.get? Command.modeAttribute =
          some (Command.modeValue enabled) := Dict.get?_insert ∅ Command.modeAttribute _ _
      cases enabled <;> simp [hattribute, hheld] <;> rfl
  · simp [hheld, Policy.isStrict]

/-- The store has entries for the held connections that have a mode. -/
theorem isSome_find?_iff (h : g.Recorded mode) (id : ConnectionId) :
    (g.sessions.find? id).isSome ↔
      ∃ connection ∈ g.handles, connection.id = id ∧ (mode id).isSome := by
  rw [h.entry]
  constructor
  · intro hsome
    split at hsome
    · next hheld =>
      obtain ⟨connection, hmem, hid⟩ := List.find?_isSome.mp hheld
      exact ⟨connection, hmem, of_decide_eq_true hid, by simpa using hsome⟩
    · cases hsome
  · rintro ⟨connection, hmem, rfl, hsome⟩
    rw [h.numbered.connection?_eq hmem]
    simpa using hsome

/-- There are as many entries as held connections with a mode. -/
theorem size_eq (h : g.Recorded mode) :
    g.sessions.size = (g.handles.filter fun c => (mode c.id).isSome).length := by
  -- Keys and lifetimes are both without repetition, so it is enough to compare their members.
  have hkeys : g.sessions.entries.keys.Perm
      ((g.handles.filter fun c => (mode c.id).isSome).map (·.id)) := by
    have hdistinct : ((g.handles.filter fun c => (mode c.id).isSome).map (·.id)).Nodup :=
      h.numbered.distinct.sublist (List.filter_sublist.map _)
    refine (List.perm_ext_iff_of_nodup h.ordered.nodup hdistinct).mpr fun id => ?_
    rw [Dict.mem_keys_iff]
    refine (h.isSome_find?_iff id).trans ?_
    simp only [List.mem_map, List.mem_filter]
    constructor
    · rintro ⟨connection, hmem, rfl, hsome⟩
      exact ⟨connection, ⟨hmem, hsome⟩, rfl⟩
    · rintro ⟨connection, ⟨hmem, hsome⟩, rfl⟩
      exact ⟨connection, hmem, rfl, hsome⟩
  have hlength := hkeys.length_eq
  rwa [Dict.keys, List.length_map, List.length_map] at hlength

end Recorded

end Gate

namespace Site

variable {W : Type} (b : Backend W)

/-! ## Operations on the store -/

/-- Command, close and any other call are told apart as the mode step tells them apart. -/
theorem recorded_call {s : Site W} {mode : ConnectionId → Option Bool} (h : s.gate.Recorded mode)
    (target : Target) (request : Request) :
    (perform b (.call target request) s).state.gate.Recorded fun id =>
      (s.gate.modeStep? (W := W) id (.call target request)).getD (mode id) := by
  have halike := perform_call_alike b target request s
  have hsessions := perform_call_sessions b target request s
  cases hheld : s.gate.connection? target.owner with
  | none =>
    simp only [Gate.modeStep?_gone W hheld, Option.getD_none]
    rw [hheld] at hsessions
    exact h.of_same halike hsessions
  | some connection =>
    have hid : connection.id = target.owner := connection?_id hheld
    have hsome : (s.gate.connection? target.owner).isSome := Option.isSome_of_eq_some hheld
    rw [Gate.modeStep?_call W hsome, Request.modeChange?]
    rw [hheld, Gate.sessionsAfter, hid] at hsessions
    cases hmode : request.mode? s.gate.space with
    | some enabled =>
      rw [hmode] at hsessions
      exact h.set hsome halike hsessions
    | none =>
      rw [hmode] at hsessions
      by_cases hclose : request.method = .close
      · simp only [if_pos hclose] at hsessions ⊢
        exact h.clear target.owner halike hsessions
      · simp only [if_neg hclose] at hsessions ⊢
        exact h.of_same halike hsessions

/-- A new connection has no session, and a connection that fails leaves none. -/
theorem recorded_connect {s : Site W} {mode : ConnectionId → Option Bool}
    (h : s.gate.Recorded mode) (protocol : String) (host : HostSpec) (props : Properties) :
    (connect b protocol host props s).state.gate.Recorded mode := by
  have hnumbered := numbered_connect b h.numbered protocol host props
  have hfresh : mode ⟨s.gate.minted⟩ = none := h.unbegun _ (Nat.le_refl _)
  obtain ⟨-, hminted, hended⟩ := connect_gate b protocol host props s
  have hunbegun (id : ConnectionId)
      (hid : (connect b protocol host props s).state.gate.minted ≤ id.number) : mode id = none := by
    rw [hminted] at hid
    exact h.unbegun id (Nat.le_of_succ_le hid)
  rcases hended with ⟨_, -, hhandles, hsessions⟩ | ⟨capabilities, -, hhandles, hsessions⟩
  · refine ⟨hnumbered, ?_, fun id => ?_, hunbegun⟩
    · rw [hsessions]
      exact h.ordered.erase _
    · rw [hsessions, Sessions.find?_clear, h.entry, Gate.connection?, Gate.connection?, hhandles]
      by_cases heq : id = ⟨s.gate.minted⟩ <;> simp [heq, hfresh]
  · refine ⟨hnumbered, ?_, fun id => ?_, hunbegun⟩
    · rw [hsessions]
      exact h.ordered
    · rw [hsessions, h.entry, Gate.connection?, Gate.connection?, hhandles, List.find?_append]
      by_cases heq : id = ⟨s.gate.minted⟩
      · simp [heq, hfresh]
      · simp [Ne.symm heq]

/-- A released connection takes its entry with it, and no other entry is swept away. -/
theorem recorded_release {s : Site W} {mode : ConnectionId → Option Bool}
    (h : s.gate.Recorded mode) (connection : Connection) :
    (release connection s).state.gate.Recorded mode := by
  -- The sweep comes while the handle still counts as held, but its entry is gone by then.
  have hcleared : Gate.Recorded { s.gate with sessions := s.gate.sessions.clear connection.id }
      (Function.update mode connection.id none) := h.clear connection.id ⟨rfl, rfl, rfl, rfl⟩ rfl
  have hhandles : (release connection s).state.gate.handles =
      s.gate.handles.filter (·.id ≠ connection.id) := rfl
  have hsessions : (release connection s).state.gate.sessions =
      s.gate.sessions.clear connection.id := hcleared.purge_eq
  refine ⟨h.numbered.of_filter hhandles rfl, ?_, fun id => ?_, h.unbegun⟩
  · rw [hsessions]
    exact hcleared.ordered
  · rw [hsessions, Sessions.find?_clear, h.entry, Gate.connection?_of_filter hhandles]
    by_cases hid : id = connection.id <;> simp [hid]

/-- What one operation preserves. -/
theorem recorded_perform {s : Site W} {mode : ConnectionId → Option Bool}
    (h : s.gate.Recorded mode) (op : Operation W) :
    (perform b op s).state.gate.Recorded fun id =>
      (s.gate.modeStep? id op).getD (mode id) := by
  cases op with
  | connect protocol host props => exact recorded_connect b h protocol host props
  | call target request => exact recorded_call b h target request
  | release id =>
    cases hheld : s.gate.connection? id with
    | none =>
      simp only [perform, Act.bind_state, Act.read_apply, hheld]
      exact h
    | some connection =>
      simp only [perform, Act.bind_state, Act.read_apply, hheld]
      exact recorded_release h connection
  | purge =>
    have hswept : (perform b .purge s).state.gate = s.gate := by
      show ({ s.gate with sessions := s.gate.sessions.purge s.gate.isAlive } : Gate) = s.gate
      rw [h.purge_eq]
    rw [hswept]
    exact h
  | announce hosts => exact h.of_same ⟨rfl, rfl, rfl, rfl⟩ rfl
  | applyTopology hosts => exact h.of_same ⟨rfl, rfl, rfl, rfl⟩ rfl
  | seed source => cases source <;> exact h.of_same ⟨rfl, rfl, rfl, rfl⟩ rfl
  | elapse world => exact h

/-- In every site that a new gate reaches the store holds what the history says. -/
theorem recorded_after {config : Config} {gate : Gate} (hnew : Gate.ofConfig config = .ok gate)
    (world : W) (ops : List (Operation W)) :
    (after b ⟨gate, world⟩ ops).gate.Recorded (modeOf b ⟨gate, world⟩ ops) := by
  induction ops using List.reverseRecOn with
  | nil =>
    have hnumbered := numbered_after b hnew world []
    obtain ⟨space, rfl⟩ := Gate.ofConfig_eq hnew
    exact ⟨hnumbered, Dict.wellOrdered_empty, fun id => rfl, fun id _ => rfl⟩
  | append_singleton ops op ih =>
    have hstep := recorded_perform b ih op
    rw [after_concat]
    convert hstep using 1
    funext id
    exact modeOf_concat b _ ops op id

/-! ## The store and the history -/

/-- After any run the mode attribute of every held connection is what the last control command on it
or on its statements set, if there was one after its last close. The store has entries for exactly
the held connections with such a command, so that its size is their number. And whatever is done
next, only a command or a close on the connection itself changes its attribute while it is held. -/
theorem sessions_follow_history {config : Config} {gate : Gate}
    (hnew : Gate.ofConfig config = .ok gate) (world : W) (ops : List (Operation W)) :
    let s := after b ⟨gate, world⟩ ops
    let mode := modeOf b ⟨gate, world⟩ ops
    (∀ connection ∈ s.gate.handles,
        s.gate.attribute? connection.id Command.modeAttribute =
          (mode connection.id).map Command.modeValue) ∧
      (∀ id, (s.gate.sessions.find? id).isSome ↔
        ∃ connection ∈ s.gate.handles, connection.id = id ∧ (mode id).isSome) ∧
      s.gate.sessions.size = (s.gate.handles.filter fun c => (mode c.id).isSome).length ∧
      ∀ (op : Operation W), ∀ connection ∈ s.gate.handles,
        connection ∈ (perform b op s).state.gate.handles →
        (∀ target request, op = .call target request → target.owner = connection.id →
          request.mode? s.gate.space = none ∧ request.method ≠ .close) →
        (perform b op s).state.gate.attribute? connection.id Command.modeAttribute =
          s.gate.attribute? connection.id Command.modeAttribute := by
  intro s mode
  have hrecorded : s.gate.Recorded mode := recorded_after b hnew world ops
  refine ⟨fun _ hheld => hrecorded.attribute?_eq hheld, hrecorded.isSome_find?_iff,
    hrecorded.size_eq, ?_⟩
  intro op connection hheld hstill hother
  -- The operation is neither a command nor a close on this connection.
  have hstep : s.gate.modeStep? connection.id op = none := by
    cases op with
    | call target request =>
      refine ite_eq_right_iff.mpr fun ⟨howner, _⟩ => ?_
      obtain ⟨hcommand, hclose⟩ := hother target request rfl howner
      rw [Request.modeChange?, hcommand]
      exact if_neg hclose
    | _ => rfl
  have hnext := (recorded_perform b hrecorded op).attribute?_eq hstill
  rw [hnext, hrecorded.attribute?_eq hheld, hstep]
  rfl

/-- Of three connections in strict-writer mode the second one is closed and the third one is
released. -/
def interleaved : List (Operation Nat) :=
  let strict : Request := .execute "SET SESSION ns.strict_writer = true"
  [.connect "jdbc" ⟨"a", 5432, .writer⟩ ∅, .connect "jdbc" ⟨"b", 5432, .reader⟩ ∅,
    .connect "jdbc" ⟨"c", 5432, .reader⟩ ∅,
    .call (.statement ⟨⟨0⟩⟩) strict, .call (.connection ⟨1⟩) strict,
    .call (.connection ⟨2⟩) strict, .call (.connection ⟨1⟩) .close, .release ⟨2⟩]

/-- The first connection alone is left with a session. -/
theorem sessions_follow_history_interleaved :
    let s := after (.moving []) ⟨.plain, 0⟩ interleaved
    s.gate.handles.map (·.id) = [⟨0⟩, ⟨1⟩] ∧
      s.gate.attribute? ⟨0⟩ Command.modeAttribute = some "true" ∧ s.gate.sessions.size = 1 := by
  intro s
  obtain ⟨hattribute, -, hsize, -⟩ :=
    sessions_follow_history (.moving []) Gate.ofConfig_plain 0 interleaved
  let mode := modeOf (.moving []) ⟨.plain, 0⟩ interleaved
  let first : Connection := ⟨⟨0⟩, ⟨"a", 5432, .writer⟩, .ofVersion (.ofLine "on") false⟩
  obtain ⟨hhandles, hheld, hfirst, hcount⟩ : s.gate.handles.map (·.id) = [⟨0⟩, ⟨1⟩] ∧
      first ∈ s.gate.handles ∧ mode first.id = some true ∧
      (s.gate.handles.filter fun c => (mode c.id).isSome).length = 1 := by decide +kernel
  refine ⟨hhandles, ?_, hsize.trans hcount⟩
  exact (hattribute first hheld).trans (congrArg (Option.map Command.modeValue) hfirst)

end Site

end ClusterGate
