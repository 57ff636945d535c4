import ClusterGate.Proofs.Interception
import ClusterGate.Proofs.Opening
import Mathlib.Data.List.Induction
import Mathlib.Data.List.Nodup

/-!
# Runs of a gate

A run is a list of operations, done one after the other on a site. It covers every order of calls on
any number of connections and their statements, and every behaviour of the world: what a driver call
answers is up to the backend, topology changes arrive with its answers, and between two operations
the world may change in any way.

Laws about runs follow the trail of a run, which tells for every operation the site that it found.
They are proved by induction from the end of the run, one operation at a time.
-/

namespace ClusterGate

/-- What a caller makes calls on. -/
inductive Target
  | connection (id : ConnectionId)
  | statement (statement : Statement)
  deriving DecidableEq, Repr

/-- The lifetime of the physical connection behind a target. -/
def Target.owner : Target → ConnectionId
  | connection id => id
  | statement s => s.owner

/-- A call on the target can be made: the handle of the connection is held. A statement needs none.
-/
def Target.reaches (g : Gate) : Target → Bool
  | connection id => (g.connection? id).isSome
  | statement _ => true

/-- Something that happens to a gate from outside. -/
inductive Operation (W : Type)
  | connect (protocol : String) (host : HostSpec) (props : Properties)
  | call (target : Target) (request : Request)
  /-- The handle of a connection is given up. -/
  | release (id : ConnectionId)
  | purge
  | announce (hosts : List HostSpec)
  | applyTopology (hosts : List HostSpec)
  | seed (source : Except ListingError (List HostSpec))
  /-- The world changes: time passes, and servers change their ways. -/
  | elapse (world : W)

/-- What a caller gets back from an operation. -/
inductive Outcome
  | opened (result : Except CallError Connection)
  | answered (request : Request) (result : Except CallError request.Value)
  | swept (count : Nat)
  | seeded (result : Except ListingError (List HostSpec))
  | nothing

namespace Site

variable {W : Type} (b : Backend W)

/-- Do an operation. Only a handle that is held can be called or released; a statement can be called
also after its connection is gone. -/
def perform : Operation W → Act Event (Site W) Outcome
  | .connect protocol host props => do return .opened (← connect b protocol host props)
  | .call (.connection id) request => do
    match ← Act.read (·.gate.connection? id) with
    | some connection => return .answered request (← callConnection b connection request)
    | none => return .nothing
  | .call (.statement statement) request => do
    return .answered request (← callStatement b statement request)
  | .release id => do
    match ← Act.read (·.gate.connection? id) with
    | some connection =>
      release connection
      return .nothing
    | none => return .nothing
  | .purge => do return .swept (← purge)
  | .announce hosts => do
    announce hosts
    return .nothing
  | .applyTopology hosts => do
    applyTopology hosts
    return .nothing
  | .seed source => do return .seeded (← seed source)
  | .elapse world => do
    Act.update fun s => { s with world }
    return .nothing

def after (s : Site W) (ops : List (Operation W)) : Site W :=
  ops.foldl (fun s op => (perform b op s).state) s

@[simp] theorem after_nil (s : Site W) : after b s [] = s := rfl

@[simp] theorem after_concat (s : Site W) (ops : List (Operation W)) (op : Operation W) :
    after b s (ops ++ [op]) = (perform b op (after b s ops)).state := by
  simp [after]

end Site

/-- An operation together with the site that it finds. -/
structure Moment (W : Type) where
  site : Site W
  operation : Operation W

namespace Site

variable {W : Type} (b : Backend W)

/-- The operations of a run, each with the site that it finds. -/
def trail (s : Site W) : List (Operation W) → List (Moment W)
  | [] => []
  | op :: rest => ⟨s, op⟩ :: trail (perform b op s).state rest

@[simp] theorem trail_concat (s : Site W) (ops : List (Operation W)) (op : Operation W) :
    trail b s (ops ++ [op]) = trail b s ops ++ [⟨after b s ops, op⟩] := by
  induction ops generalizing s with
  | nil => rfl
  | cons first rest ih =>
    rw [List.cons_append, trail, ih, trail]
    rfl

/-- Every operation of a run finds the site that those before it leave. -/
theorem mem_trail {s : Site W} {ops : List (Operation W)} {m : Moment W} (h : m ∈ trail b s ops) :
    ∃ before rest, ops = before ++ m.operation :: rest ∧ m.site = after b s before := by
  induction ops generalizing s with
  | nil => cases h
  | cons op rest ih =>
    rcases List.mem_cons.mp h with rfl | hlater
    · exact ⟨[], rest, rfl, rfl⟩
    · obtain ⟨before, rest', rfl, hsite⟩ := ih hlater
      exact ⟨op :: before, rest', rfl, hsite⟩

/-- What every operation of a run preserves holds of all sites of the run. -/
theorem forall_mem_trail {P : Site W → Prop} {s : Site W} {ops : List (Operation W)} (hs : P s)
    (hstep : ∀ op ∈ ops, ∀ reached, P reached → P (perform b op reached).state) :
    ∀ m ∈ trail b s ops, P m.site := by
  induction ops generalizing s with
  | nil => intro m hm; cases hm
  | cons op rest ih =>
    refine List.forall_mem_cons.mpr ⟨hs, ih (hstep op List.mem_cons_self s hs) ?_⟩
    exact fun op' hop' => hstep op' (List.mem_cons_of_mem _ hop')

def emitted (s : Site W) (ops : List (Operation W)) : List Event :=
  (trail b s ops).flatMap fun m => (perform b m.operation m.site).events

/-! ## Calls on a target -/

theorem connection?_id {g : Gate} {id : ConnectionId} {connection : Connection}
    (h : g.connection? id = some connection) : connection.id = id := by
  simpa using List.find?_some h

/-- While the connection is held, a call on it and a call on one of its statements are the same. -/
theorem perform_call_held {target : Target} {connection : Connection} {s : Site W}
    (h : s.gate.connection? target.owner = some connection) (request : Request) :
    let call := callFor b (some connection) connection.id request s
    perform b (.call target request) s =
      ⟨.answered request call.value, call.state, call.events⟩ := by
  have hid := connection?_id h
  cases target with
  | connection id =>
    rw [Target.owner] at h
    simp [perform, callConnection, bind, Act.read, h]
  | statement statement =>
    rw [Target.owner] at h hid
    simp [perform, callStatement, bind, Act.read, Gate.ownerOf, h, hid]

/-- A call that can be made goes through the stages with the connection of its target, if that is
still held. -/
theorem perform_call_reached {target : Target} {s : Site W}
    (hreached : target.reaches s.gate = true) (request : Request) :
    let call := callFor b (s.gate.connection? target.owner) target.owner request s
    perform b (.call target request) s =
      ⟨.answered request call.value, call.state, call.events⟩ := by
  cases hheld : s.gate.connection? target.owner with
  | some connection =>
    have hid := connection?_id hheld
    rw [perform_call_held b hheld, hid]
  | none =>
    cases target with
    | connection id =>
      rw [Target.owner] at hheld
      rw [Target.reaches, hheld] at hreached
      cases hreached
    | statement statement =>
      rw [Target.owner] at hheld
      simp [perform, callStatement, bind, Act.read, Gate.ownerOf, Target.owner, hheld]

/-- Nobody can call on a handle that was given up. -/
theorem perform_call_connection_gone {id : ConnectionId} {s : Site W}
    (h : s.gate.connection? id = none) (request : Request) :
    perform b (.call (.connection id) request) s = ⟨.nothing, s, []⟩ := by
  simp [perform, bind, Act.read, h]

/-- A call goes through the stages with the connection of its target, if that is still held. Without
it the call of a statement goes through the stages all the same, and any other call is not made. -/
theorem perform_call_state (target : Target) (request : Request) (s : Site W) :
    let held := s.gate.connection? target.owner
    (perform b (.call target request) s).state = (callFor b held target.owner request s).state ∨
      held = none ∧ (perform b (.call target request) s).state = s := by
  cases target with
  | statement statement => exact .inl rfl
  | connection id =>
    cases hheld : s.gate.connection? (Target.connection id).owner with
    | none =>
      have hgone : s.gate.connection? id = none := hheld
      rw [perform_call_connection_gone b hgone]
      exact .inr ⟨rfl, rfl⟩
    | some connection =>
      rw [perform_call_held b hheld, connection?_id hheld]
      exact .inl rfl

theorem perform_call_alike (target : Target) (request : Request) (s : Site W) :
    s.gate.Alike (perform b (.call target request) s).state.gate := by
  rcases perform_call_state b target request s with hstate | ⟨-, hstate⟩
  · rw [hstate]
    exact callFor_alike b _ target.owner request s
  · rw [hstate]
    exact ⟨rfl, rfl, rfl, rfl⟩

/-- A call changes the session store the way its connection has it, if that is still held. -/
theorem perform_call_sessions (target : Target) (request : Request) (s : Site W) :
    (perform b (.call target request) s).state.gate.sessions =
      s.gate.sessionsAfter (s.gate.connection? target.owner) request := by
  rcases perform_call_state b target request s with hstate | ⟨hgone, hstate⟩
  · rw [hstate]
    exact callFor_sessions b _ target.owner request s
  · rw [hstate, hgone]
    rfl

/-! ## Handles

The lifetimes of the connections that are held are distinct, and all of them were begun. -/

@[simp] theorem release_state (connection : Connection) (s : Site W) :
    (release connection s).state =
      { s with
        gate :=
          { s.gate with
            sessions := (s.gate.sessions.clear connection.id).purge s.gate.isAlive
            handles := s.gate.handles.filter (·.id ≠ connection.id) } } := rfl

end Site

/-- A new gate knows no host, holds no connection and has no session. -/
theorem Gate.ofConfig_eq {config : Config} {gate : Gate} (h : Gate.ofConfig config = .ok gate) :
    ∃ space, gate =
      { config, space, tracker := .ofConfig config, sessions := .empty, handles := [],
        minted := 0 } := by
  rw [Gate.ofConfig] at h
  split at h
  · cases h
  · cases h
    exact ⟨_, rfl⟩

/-- Giving up a handle takes it alone out of look-up. -/
theorem Gate.connection?_of_filter {g g' : Gate} {gone : ConnectionId}
    (h : g'.handles = g.handles.filter (·.id ≠ gone)) (id : ConnectionId) :
    g'.connection? id = if id = gone then none else g.connection? id := by
  rw [connection?, h, List.find?_filter]
  by_cases hid : id = gone
  · subst hid
    simp
  · rw [if_neg hid, connection?]
    congr 1
    funext connection
    by_cases heq : connection.id = id
    · simp [heq, hid]
    · simp [heq]

/-- The lifetimes of the held connections are distinct and were begun. -/
structure Gate.Numbered (g : Gate) : Prop where
  distinct : (g.handles.map (·.id)).Nodup
  begun : ∀ connection ∈ g.handles, connection.id.number < g.minted

namespace Gate.Numbered

variable {g g' : Gate}

theorem of_alike (h : g.Numbered) (halike : g.Alike g') : g'.Numbered := by
  constructor
  · rw [halike.handles]
    exact h.distinct
  · rw [halike.handles, halike.minted]
    exact h.begun

/-- Look-up by lifetime finds every held connection. -/
theorem connection?_eq (h : g.Numbered) {connection : Connection} (hheld : connection ∈ g.handles) :
    g.connection? connection.id = some connection := by
  cases hfound : g.connection? connection.id with
  | none =>
    have habsent := List.find?_eq_none.mp hfound connection hheld
    simp at habsent
  | some found =>
    have hmem : found ∈ g.handles := List.mem_of_find?_eq_some hfound
    have hid : found.id = connection.id := Site.connection?_id hfound
    rw [List.inj_on_of_nodup_map h.distinct hmem hheld hid]

/-- Giving up handles leaves the others numbered. -/
theorem of_filter (h : g.Numbered) {p : Connection → Bool}
    (hhandles : g'.handles = g.handles.filter p) (hminted : g'.minted = g.minted) :
    g'.Numbered := by
  constructor
  · rw [hhandles]
    exact h.distinct.sublist (List.filter_sublist.map _)
  · rw [hhandles, hminted]
    exact fun connection hheld => h.begun connection (List.mem_filter.mp hheld).1

/-- The next lifetime belongs to no held connection. -/
theorem connection?_fresh (h : g.Numbered) {id : ConnectionId} (hid : g.minted ≤ id.number) :
    g.connection? id = none := by
  refine List.find?_eq_none.mpr fun connection hheld => ?_
  have hbegun := h.begun connection hheld
  simp only [decide_eq_true_eq]
  rintro rfl
  omega

end Gate.Numbered

namespace Site

variable {W : Type} (b : Backend W)

/-- A connection that is handed out has a lifetime of its own. -/
theorem numbered_connect {s : Site W} (h : s.gate.Numbered) (protocol : String) (host : HostSpec)
    (props : Properties) : (connect b protocol host props s).state.gate.Numbered := by
  obtain ⟨-, hminted, hended⟩ := connect_gate b protocol host props s
  rcases hended with ⟨_, -, hhandles, -⟩ | ⟨capabilities, -, hhandles, -⟩
  · constructor
    · rw [hhandles]
      exact h.distinct
    · intro connection hheld
      rw [hhandles] at hheld
      have hbegun := h.begun connection hheld
      omega
  · constructor
    · -- Every held lifetime is below the number of those begun, which is the new one.
      rw [hhandles, List.map_append, List.nodup_append]
      refine ⟨h.distinct, by simp, ?_⟩
      intro id hid fresh hfresh heq
      obtain ⟨connection, hheld, rfl⟩ := List.mem_map.mp hid
      have hbegun := h.begun connection hheld
      rw [heq, List.mem_singleton.mp hfresh] at hbegun
      exact Nat.lt_irrefl _ hbegun
    · intro connection hheld
      rw [hhandles] at hheld
      rw [hminted]
      rcases List.mem_append.mp hheld with hheld | hheld
      · exact Nat.lt_succ_of_lt (h.begun connection hheld)
      · rw [List.mem_singleton.mp hheld]
        exact Nat.lt_succ_self _

/-- No operation hands out a handle whose lifetime was not begun, or one for a lifetime that has a
handle. -/
theorem numbered_perform {s : Site W} (h : s.gate.Numbered) (op : Operation W) :
    (perform b op s).state.gate.Numbered := by
  cases op with
  | connect protocol host props => exact numbered_connect b h protocol host props
  | call target request => exact h.of_alike (perform_call_alike b target request s)
  | release id =>
    cases hheld : s.gate.connection? id with
    | none => simpa [perform, hheld] using h
    | some connection =>
      simp only [perform, Act.bind_state, Act.read_apply, hheld]
      exact h.of_filter rfl rfl
  | purge => exact ⟨h.distinct, h.begun⟩
  | announce hosts => exact ⟨h.distinct, h.begun⟩
  | applyTopology hosts => exact ⟨h.distinct, h.begun⟩
  | seed source => cases source <;> exact ⟨h.distinct, h.begun⟩
  | elapse world => exact ⟨h.distinct, h.begun⟩

/-- No operation takes a lifetime back. -/
theorem minted_le_perform (op : Operation W) (s : Site W) :
    s.gate.minted ≤ (perform b op s).state.gate.minted := by
  cases op with
  | connect protocol host props =>
    have hminted := (connect_gate b protocol host props s).2.1
    exact Nat.le_of_lt (Nat.lt_of_lt_of_eq (Nat.lt_succ_self _) hminted.symm)
  | call target request => exact Nat.le_of_eq (perform_call_alike b target request s).minted.symm
  | release id => cases hheld : s.gate.connection? id <;> simp [perform, hheld]
  | seed source => cases source <;> exact Nat.le_refl _
  | _ => exact Nat.le_refl _

theorem minted_le_of_mem_trail {s : Site W} {ops : List (Operation W)} {m : Moment W}
    (h : m ∈ trail b s ops) : s.gate.minted ≤ m.site.gate.minted :=
  forall_mem_trail (P := fun reached => s.gate.minted ≤ reached.gate.minted) b (Nat.le_refl _)
    (fun op _ reached hle => Nat.le_trans hle (minted_le_perform b op reached)) m h

/-- A lifetime that was begun stays begun. -/
theorem minted_le_after (s : Site W) (ops : List (Operation W)) :
    s.gate.minted ≤ (after b s ops).gate.minted := by
  induction ops using List.reverseRecOn with
  | nil => exact Nat.le_refl _
  | append_singleton ops op ih =>
    rw [after_concat]
    exact Nat.le_trans ih (minted_le_perform b op _)

/-- No operation changes the namespace of the commands. -/
theorem space_perform (op : Operation W) (s : Site W) :
    (perform b op s).state.gate.space = s.gate.space := by
  cases op with
  | connect protocol host props => exact (connect_gate b protocol host props s).1
  | call target request => exact (perform_call_alike b target request s).space
  | release id => cases hheld : s.gate.connection? id <;> simp [perform, hheld]
  | seed source => cases source <;> rfl
  | _ => rfl

/-- The namespace of a gate is fixed when the gate is made. -/
theorem space_after (s : Site W) (ops : List (Operation W)) :
    (after b s ops).gate.space = s.gate.space := by
  induction ops using List.reverseRecOn with
  | nil => rfl
  | append_singleton ops op ih => rw [after_concat, space_perform, ih]

/-- A connect that succeeds adds the connection that it returns. -/
theorem connect_handles (protocol : String) (host : HostSpec) (props : Properties) (s : Site W) :
    let ended := connect b protocol host props s
    ended.state.gate.handles = s.gate.handles ++ ended.value.toOption.toList ∧
      ∀ connection ∈ ended.value.toOption,
        connection.id = ⟨s.gate.minted⟩ ∧ connection.host = host := by
  obtain ⟨-, -, hended⟩ := connect_gate b protocol host props s
  rcases hended with ⟨e, hvalue, hhandles, -⟩ | ⟨capabilities, hvalue, hhandles, -⟩
  · simp [hvalue, hhandles, Except.toOption]
  · simp [hvalue, hhandles, Except.toOption]

/-- After a release the connection is not held, and the others are as before. -/
theorem connection?_release (gone id : ConnectionId) (s : Site W) :
    (perform b (.release gone) s).state.gate.connection? id =
      if id = gone then none else s.gate.connection? id := by
  cases hheld : s.gate.connection? gone with
  | none =>
    simp only [perform, Act.bind_state, Act.read_apply, hheld, Act.pure_value]
    split
    · next heq => rw [heq, hheld]
    · rfl
  | some connection =>
    simp only [perform, Act.bind_state, Act.read_apply, hheld, Act.pure_value]
    have hhandles : (release connection s).state.gate.handles =
        s.gate.handles.filter (·.id ≠ connection.id) := rfl
    rw [Gate.connection?_of_filter hhandles, connection?_id hheld]

/-- A connection that is held stays what it is until its handle is given up. -/
theorem connection?_perform {op : Operation W} {id : ConnectionId} (hop : op ≠ .release id)
    {s : Site W} {connection : Connection} (hheld : s.gate.connection? id = some connection) :
    (perform b op s).state.gate.connection? id = some connection := by
  cases op with
  | connect protocol host props =>
    show (connect b protocol host props s).state.gate.connection? id = some connection
    rw [Gate.connection?] at hheld ⊢
    rw [(connect_handles b protocol host props s).1, List.find?_append, hheld, Option.some_or]
  | call target request =>
    rw [Gate.connection?, (perform_call_alike b target request s).handles]
    exact hheld
  | release gone =>
    rw [connection?_release, if_neg, hheld]
    rintro rfl
    exact hop rfl
  | seed source => cases source <;> exact hheld
  | _ => exact hheld

/-- A connection is held until its handle is given up. -/
theorem held_perform {op : Operation W} {id : ConnectionId} (hop : op ≠ .release id) {s : Site W}
    (hheld : (s.gate.connection? id).isSome) :
    ((perform b op s).state.gate.connection? id).isSome := by
  obtain ⟨connection, hconnection⟩ := Option.isSome_iff_exists.mp hheld
  rw [connection?_perform b hop hconnection]
  rfl

/-- In every site that a new gate reaches the handles are numbered. -/
theorem numbered_after {config : Config} {gate : Gate} (hnew : Gate.ofConfig config = .ok gate)
    (world : W) (ops : List (Operation W)) : (after b ⟨gate, world⟩ ops).gate.Numbered := by
  induction ops using List.reverseRecOn with
  | nil =>
    obtain ⟨space, rfl⟩ := Gate.ofConfig_eq hnew
    exact ⟨List.nodup_nil, by simp⟩
  | append_singleton ops op ih =>
    rw [after_concat]
    exact numbered_perform b ih op

end Site

/-! ## A cluster in motion -/

/-- A world that is a clock. Every query answers `on`, and while the query for write forwarding runs
the host list `hosts` arrives. -/
def Backend.moving (hosts : List HostSpec) : Backend Nat where
  connect now _ _ _ _ := (now, .of (.ok ()))
  call now _ request :=
    (now + 1,
      match request with
      | .executeQuery sql =>
        ⟨.ok (.singleColumn "value" [some "on"]),
          if sql = forwardingQuery then [⟨hosts, true⟩] else [], []⟩
      | .execute _ | .isValid => .of (.ok true)
      | .executeUpdate _ | .executeLargeUpdate _ => .of (.ok (1 : Int))
      | .commit | .rollback | .setAutoCommit _ | .close => .of (.ok ()))
  url _ _ := "url"
  now := id

/-- The configuration of the gate below. -/
def Config.plain : Config := { Config.default with commandNamespace := "ns" }

def Gate.plain : Gate := ⟨.plain, ⟨"ns"⟩, .ofConfig .plain, .empty, [], 0⟩

theorem Gate.ofConfig_plain : Gate.ofConfig .plain = .ok .plain := by
  rfl

end ClusterGate
