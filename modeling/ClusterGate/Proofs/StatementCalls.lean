import ClusterGate.Proofs.Transparency

/-!
# Calls on statements

A statement knows its connection by name only, and looks it up at every call. As long as the handle
of the connection is held, a call on the statement is a call on the connection, in whatever state
the gate is. Once the handle was given up, the look-up finds nothing in any later state, since no
lifetime is begun twice, and a call on the statement is what the driver makes of it.
-/

namespace ClusterGate

/-- The operation with a call on a statement of the connection made on the connection itself. -/
def Operation.redirected {W : Type} (id : ConnectionId) : Operation W → Operation W
  | .call target request => .call (if target.owner = id then .connection id else target) request
  | op => op

/-- The lifetime was begun and its handle is not held, so it was given up or never handed out. -/
structure Gate.Gone (g : Gate) (id : ConnectionId) : Prop where
  begun : id.number < g.minted
  unheld : g.connection? id = none

namespace Site

variable {W : Type} {b : Backend W}

/-! ## While the handle is held -/

/-- A handle that is not released is held to the end of the run. -/
theorem connection?_after {id : ConnectionId} {ops : List (Operation W)}
    (hkept : .release id ∉ ops) {s : Site W} {connection : Connection}
    (hheld : s.gate.connection? id = some connection) :
    (after b s ops).gate.connection? id = some connection := by
  induction ops using List.reverseRecOn with
  | nil => exact hheld
  | append_singleton ops op ih =>
    rw [List.mem_append, List.mem_singleton, not_or] at hkept
    rw [after_concat]
    exact connection?_perform b (Ne.symm hkept.2) (ih hkept.1)

/-- While the handle is held, a call on the statement is a call on the connection. -/
theorem callStatement_held {s : Site W} {connection : Connection}
    (hheld : s.gate.connection? connection.id = some connection) (request : Request) :
    callStatement b ⟨connection.id⟩ request s = callConnection b connection request s := by
  simp [callStatement, callConnection, bind, Act.read, Gate.ownerOf, hheld]

/-- Where the connection is held, an operation and its redirection do the same. -/
theorem perform_redirected {s : Site W} {connection : Connection}
    (hheld : s.gate.connection? connection.id = some connection) (op : Operation W) :
    perform b (op.redirected connection.id) s = perform b op s := by
  cases op with
  | call target request =>
    rw [Operation.redirected]
    split
    · next howner =>
      have howned : s.gate.connection? target.owner = some connection := by rw [howner, hheld]
      have hself : s.gate.connection? (Target.connection connection.id).owner = some connection :=
        hheld
      rw [perform_call_held b howned, perform_call_held b hself]
    · rfl
  | _ => rfl

/-- What the operations of a run do, one after the other. -/
def steps (b : Backend W) (s : Site W) (ops : List (Operation W)) :
    List (Step Event (Site W) Outcome) :=
  (trail b s ops).map fun m => perform b m.operation m.site

theorem steps_redirected {connection : Connection} {ops : List (Operation W)}
    (hkept : .release connection.id ∉ ops) {s : Site W}
    (hheld : s.gate.connection? connection.id = some connection) :
    steps b s (ops.map (.redirected connection.id)) = steps b s ops := by
  induction ops generalizing s with
  | nil => rfl
  | cons op rest ih =>
    rw [List.mem_cons, not_or] at hkept
    have hnext := connection?_perform b (Ne.symm hkept.1) hheld
    have hrest := ih hkept.2 hnext
    simp only [steps, List.map_cons, trail, perform_redirected hheld] at hrest ⊢
    rw [hrest]

/-! ## Once the handle was given up -/

/-- A connection that is gone never comes back. -/
theorem gone_perform {s : Site W} {id : ConnectionId} (h : s.gate.Gone id) (op : Operation W) :
    (perform b op s).state.gate.Gone id := by
  refine ⟨Nat.lt_of_lt_of_le h.begun (minted_le_perform b op s), ?_⟩
  cases op with
  | connect protocol host props =>
    obtain ⟨hhandles, hfresh⟩ := connect_handles b protocol host props s
    show (connect b protocol host props s).state.gate.connection? id = none
    rw [Gate.connection?, hhandles, List.find?_append, ← Gate.connection?, h.unheld,
      Option.none_or]
    refine List.find?_eq_none.mpr fun connection hopened => ?_
    -- The connection that is handed out has a lifetime that begins only now.
    have hid := (hfresh connection (Option.mem_toList.mp hopened)).1
    have hbegun := h.begun
    simp only [decide_eq_true_eq]
    rintro rfl
    rw [hid] at hbegun
    exact Nat.lt_irrefl _ hbegun
  | call target request =>
    rw [Gate.connection?, (perform_call_alike b target request s).handles]
    exact h.unheld
  | release other =>
    rw [connection?_release, h.unheld, ite_self]
  | seed source => cases source <;> exact h.unheld
  | _ => exact h.unheld

/-- No operation brings a lifetime back. -/
theorem gone_after {s : Site W} {id : ConnectionId} (h : s.gate.Gone id)
    (ops : List (Operation W)) : (after b s ops).gate.Gone id := by
  induction ops using List.reverseRecOn with
  | nil => exact h
  | append_singleton ops op ih =>
    rw [after_concat]
    exact gone_perform ih op

theorem gone_of_release {s : Site W} {id : ConnectionId} (hbegun : id.number < s.gate.minted)
    {ops : List (Operation W)} (h : .release id ∈ ops) : (after b s ops).gate.Gone id := by
  obtain ⟨before, rest, rfl⟩ := List.append_of_mem h
  have hreleased : (after b s (before ++ [.release id])).gate.Gone id := by
    rw [after_concat]
    refine ⟨?_, by rw [connection?_release, if_pos rfl]⟩
    exact Nat.lt_of_lt_of_le hbegun
      (Nat.le_trans (minted_le_after b s before) (minted_le_perform b _ _))
  rw [List.append_cons, after_append]
  exact gone_after hreleased rest

/-- A call on a statement whose connection is gone is what the driver makes of it. -/
theorem callStatement_gone {s : Site W} {id : ConnectionId} (h : s.gate.Gone id)
    (request : Request) :
    let step := callStatement b ⟨id⟩ request s
    let answered := b.call s.world id request
    step.value = answered.2.result.mapError .driver ∧
      step.state =
        ⟨{ s.gate with tracker := s.gate.tracker.receiveAll answered.2.pushes }, answered.1⟩ ∧
      Event.contacts step.events = [.called id .caller request] := by
  have hcall : callStatement b ⟨id⟩ request s = callFor b none id request s := by
    simp [callStatement, bind, Act.read, Gate.ownerOf, h.unheld]
  -- Strict-writer mode and commands are a matter of connections, and there is none.
  have hlax : ∀ connection ∈ (none : Option Connection), s.gate.isStrict connection.id = false := by
    intro connection hnone
    cases hnone
  obtain ⟨hvalue, hstate, hcontacts⟩ := callFor_lax (b := b) id request hlax (.inr rfl)
  simp only [hcall]
  exact ⟨hvalue, hstate, hcontacts⟩

/-! ## Both together -/

/-- A connection that was just handed out is held under its lifetime. -/
theorem connection?_connect {s : Site W} (hnumbered : s.gate.Numbered) {protocol : String}
    {host : HostSpec} {props : Properties} {connection : Connection}
    (hopen : (connect b protocol host props s).value = .ok connection) :
    let opened := (connect b protocol host props s).state
    opened.gate.connection? connection.id = some connection ∧
      connection.id.number < opened.gate.minted := by
  have hmem : connection ∈ (connect b protocol host props s).state.gate.handles := by
    rw [(connect_handles b protocol host props s).1, hopen]
    exact List.mem_append_right _ List.mem_cons_self
  have hopened := numbered_connect b hnumbered protocol host props
  exact ⟨hopened.connection?_eq hmem, hopened.begun connection hmem⟩

/-- As long as the handle of a connection is held, a call on one of its statements is the call on
the connection: what it returns, what it changes and every event are the same, also after a close of
the connection, and so in a whole run each call on a statement may be made on the connection
instead. From the release on a call on a statement is the driver's own. It returns what the driver
answers, and nothing changes but by what the driver brings with the answer. -/
theorem statement_is_connection {config : Config} {gate : Gate}
    (hnew : Gate.ofConfig config = .ok gate) (world : W) (ops : List (Operation W))
    {protocol : String} {host : HostSpec} {props : Properties} {connection : Connection}
    (hopen : (connect b protocol host props (after b ⟨gate, world⟩ ops)).value = .ok connection)
    (later : List (Operation W)) :
    let opened := (connect b protocol host props (after b ⟨gate, world⟩ ops)).state
    let s := after b opened later
    (.release connection.id ∉ later →
      (∀ request, callStatement b ⟨connection.id⟩ request s =
        callConnection b connection request s) ∧
      steps b opened (later.map (.redirected connection.id)) = steps b opened later) ∧
    (.release connection.id ∈ later → ∀ request,
      let step := callStatement b ⟨connection.id⟩ request s
      let answered := b.call s.world connection.id request
      step.value = answered.2.result.mapError .driver ∧
        step.state =
          ⟨{ s.gate with tracker := s.gate.tracker.receiveAll answered.2.pushes }, answered.1⟩ ∧
        Event.contacts step.events = [.called connection.id .caller request]) := by
  intro opened s
  obtain ⟨hheld, hbegun⟩ := connection?_connect (numbered_after b hnew world ops) hopen
  constructor
  · intro hkept
    exact ⟨callStatement_held (connection?_after hkept hheld), steps_redirected hkept hheld⟩
  · intro hreleased request
    exact callStatement_gone (gone_of_release hbegun hreleased) request

open ScriptedCluster (backend)

def healthyConnection : Connection :=
  ⟨⟨0⟩, ⟨"a", 5432, .writer⟩,
    .ofVersion (.ofLine "PostgreSQL 17.4 on x86_64-pc-linux-gnu, compiled by gcc, 64-bit") true⟩

/-- After a close a command on the statement is consumed as one on the connection is. After the
release the driver answers it. -/
theorem statement_is_connection_released :
    let command : Request := .executeUpdate "SET SESSION ns.strict_writer = true"
    let opened := (connect backend "jdbc" ⟨"a", 5432, .writer⟩ ∅ ⟨.plain, healthyCluster⟩).state
    let closed := after backend opened [.call (.connection ⟨0⟩) .close]
    let released := after backend opened [.call (.statement ⟨⟨0⟩⟩) command, .release ⟨0⟩]
    (callStatement backend ⟨⟨0⟩⟩ command closed =
        callConnection backend healthyConnection command closed ∧
      (callConnection backend healthyConnection command closed).value = .ok (0 : Int)) ∧
      (callStatement backend ⟨⟨0⟩⟩ command released).value = .ok (1 : Int) ∧
      Event.contacts (callStatement backend ⟨⟨0⟩⟩ command released).events =
        [.called ⟨0⟩ .caller command] := by
  intro command opened closed released
  have hopen : (connect backend "jdbc" ⟨"a", 5432, .writer⟩ ∅ ⟨.plain, healthyCluster⟩).value =
      .ok healthyConnection := by
    decide +kernel
  have hheld := (statement_is_connection (b := backend) Gate.ofConfig_plain healthyCluster [] hopen
    [.call (.connection ⟨0⟩) .close]).1 (by simp)
  have hgone := (statement_is_connection (b := backend) Gate.ofConfig_plain healthyCluster [] hopen
    [.call (.statement ⟨⟨0⟩⟩) command, .release ⟨0⟩]).2 (by simp [healthyConnection]) command
  have hacknowledged :
      ((callConnection backend healthyConnection command closed).value : Except CallError Int) =
        .ok 0 := by
    decide +kernel
  have hanswered : ((callStatement backend ⟨⟨0⟩⟩ command released).value : Except CallError Int) =
      .ok 1 :=
    hgone.1.trans (by decide +kernel)
  exact ⟨⟨hheld.1 command, hacknowledged⟩, hanswered, hgone.2.2⟩

end Site

end ClusterGate
