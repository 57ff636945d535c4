import ClusterGate.Driver.Scripted
import ClusterGate.Proofs.SessionHistory

/-!
# Sessions after a close

A close ends the session of its connection, whatever the driver answers to it. The handle stays in
the caller's hands, though, and the stage of the control commands comes before the driver: a command
on a connection that was closed is consumed as on any other, and begins a session anew. Nothing else
does (`unset_after_close`).

So the attributes of a closed connection are those of a history that begins with the close.
-/

namespace ClusterGate

/-- The operation is a control command that this connection consumes. -/
def Moment.commands {W : Type} (m : Moment W) (id : ConnectionId) : Bool :=
  (m.site.gate.modeStep? id m.operation).join.isSome

namespace Site

variable {W : Type} (b : Backend W)

/-! ## Runs one after the other -/

theorem after_append (s : Site W) (first second : List (Operation W)) :
    after b s (first ++ second) = after b (after b s first) second :=
  List.foldl_append

theorem trail_append (s : Site W) (first second : List (Operation W)) :
    trail b s (first ++ second) = trail b s first ++ trail b (after b s first) second := by
  induction first generalizing s with
  | nil => rfl
  | cons op rest ih =>
    rw [List.cons_append, trail, ih, trail]
    rfl

/-- The mode of a connection without one is that of the rest of the run. -/
theorem modeOf_append (s : Site W) {first : List (Operation W)} {id : ConnectionId}
    (hunset : modeOf b s first id = none) (second : List (Operation W)) :
    modeOf b s (first ++ second) id = modeOf b (after b s first) second id := by
  rw [modeOf] at hunset
  rw [modeOf, modeOf, trail_append, List.filterMap_append, List.getLast?_append]
  cases ((trail b (after b s first) second).filterMap
      fun m => m.site.gate.modeStep? id m.operation).getLast? with
  | none => exact hunset
  | some last => rfl

/-- A mode was set by an operation of the run. -/
theorem exists_modeStep_of_modeOf {s : Site W} {ops : List (Operation W)} {id : ConnectionId}
    {enabled : Bool} (hmode : modeOf b s ops id = some enabled) :
    ∃ m ∈ trail b s ops, m.site.gate.modeStep? id m.operation = some (some enabled) :=
  List.mem_filterMap.mp (List.mem_of_getLast? (Option.join_eq_some_iff.mp hmode))

/-- Without a command there is no mode. -/
theorem modeOf_of_no_command (s : Site W) (ops : List (Operation W)) {id : ConnectionId}
    (hcommand : ∀ m ∈ trail b s ops, m.commands id = false) : modeOf b s ops id = none := by
  cases hmode : modeOf b s ops id with
  | none => rfl
  | some enabled =>
    obtain ⟨m, hmem, hstep⟩ := exists_modeStep_of_modeOf b hmode
    have hnone := hcommand m hmem
    rw [Moment.commands, hstep] at hnone
    cases hnone

/-! ## After a close -/

/-- The site after a close of a connection. -/
def shut (id : ConnectionId) (s : Site W) : Site W :=
  (perform b (.call (.connection id) .close) s).state

/-- A close leaves its connection without a mode, whatever the driver answers. -/
theorem modeOf_close (s : Site W) (ops : List (Operation W)) {id : ConnectionId}
    (hheld : ((after b s ops).gate.connection? id).isSome) :
    modeOf b s (ops ++ [.call (.connection id) .close]) id = none := by
  have hstep : (after b s ops).gate.modeStep? (W := W) id (.call (.connection id) .close) =
      some none := if_pos ⟨rfl, hheld⟩
  rw [modeOf_concat, hstep]
  rfl

section
variable {config : Config} {gate : Gate} (hnew : Gate.ofConfig config = .ok gate) (world : W)
  (ops : List (Operation W)) {id : ConnectionId}
  (hheld : ((after b ⟨gate, world⟩ ops).gate.connection? id).isSome) (later : List (Operation W))
include hnew hheld

/-- In every run the entry of a connection that was closed is what the history since then says. -/
theorem entry_after_close :
    (after b (shut b id (after b ⟨gate, world⟩ ops)) later).gate.sessions.find? id =
      if ((after b (shut b id (after b ⟨gate, world⟩ ops)) later).gate.connection? id).isSome then
        (modeOf b (shut b id (after b ⟨gate, world⟩ ops)) later id).map (.ofMode id)
      else none := by
  -- The close is one more operation of the run from the new gate.
  have hshut : shut b id (after b ⟨gate, world⟩ ops) =
      after b ⟨gate, world⟩ (ops ++ [.call (.connection id) .close]) :=
    (after_concat b _ ops _).symm
  have hentry := (recorded_after b hnew world
    (ops ++ [.call (.connection id) .close] ++ later)).entry id
  rw [modeOf_append b _ (modeOf_close b _ ops hheld), after_append, ← hshut] at hentry
  exact hentry

/-- As long as no command is consumed on it, a connection that was closed has no session. -/
theorem unset_after_close
    (hcommand : ∀ m ∈ trail b (shut b id (after b ⟨gate, world⟩ ops)) later,
      m.commands id = false) :
    (after b (shut b id (after b ⟨gate, world⟩ ops)) later).gate.sessions.find? id = none := by
  rw [entry_after_close b hnew world ops hheld later, modeOf_of_no_command b _ later hcommand]
  exact ite_self _

end

/-- However a run goes on after a connection was closed, and whatever the driver answered to that,
the connection has an entry in the store exactly while its handle is held and the last that was
consumed on it since then, of commands and closes, is a command. So as long as no command is
consumed on it or on its statements, no attribute of it is set. -/
theorem session_after_close {config : Config} {gate : Gate}
    (hnew : Gate.ofConfig config = .ok gate) (world : W) (ops : List (Operation W))
    {id : ConnectionId} (hheld : ((after b ⟨gate, world⟩ ops).gate.connection? id).isSome)
    (later : List (Operation W)) :
    let closed := shut b id (after b ⟨gate, world⟩ ops)
    let s := after b closed later
    ((s.gate.sessions.find? id).isSome ↔
        (s.gate.connection? id).isSome ∧ (modeOf b closed later id).isSome) ∧
      ((∀ m ∈ trail b closed later, m.commands id = false) →
        s.gate.sessions.find? id = none ∧ ∀ key, s.gate.attribute? id key = none) := by
  intro closed s
  constructor
  · have hentry : s.gate.sessions.find? id =
        if (s.gate.connection? id).isSome then (modeOf b closed later id).map (.ofMode id)
        else none := entry_after_close b hnew world ops hheld later
    rw [hentry]
    by_cases hstill : (s.gate.connection? id).isSome <;> simp [hstill]
  · intro hcommand
    have hnone : s.gate.sessions.find? id = none :=
      unset_after_close b hnew world ops hheld later hcommand
    refine ⟨hnone, fun key => ?_⟩
    rw [Gate.attribute?, Sessions.get?, hnone]
    rfl

open ScriptedCluster (backend)

def healthyCluster : ScriptedCluster := ⟨∅, ∅, false, 0⟩

/-- A connection in strict-writer mode. -/
def strictOpened : List (Operation ScriptedCluster) :=
  [.connect "jdbc" ⟨"a", 5432, .writer⟩ ∅,
    .call (.connection ⟨0⟩) (.execute "SET SESSION ns.strict_writer = true")]

/-- Calls that begin no session. -/
def idle : List (Operation ScriptedCluster) :=
  [.call (.statement ⟨⟨0⟩⟩) (.executeUpdate "insert"), .call (.connection ⟨0⟩) .commit,
    .call (.connection ⟨0⟩) (.executeQuery "SET SESSION ns.strict_writer = true")]

/-- A query is no command, so the session stays ended. -/
theorem session_after_close_idle :
    let opened := after backend ⟨.plain, healthyCluster⟩ strictOpened
    let s := after backend (shut backend ⟨0⟩ opened) idle
    opened.gate.attribute? ⟨0⟩ Command.modeAttribute = some "true" ∧
      s.gate.sessions.find? ⟨0⟩ = none ∧ ∀ key, s.gate.attribute? ⟨0⟩ key = none := by
  have hrun :
      let opened := after backend ⟨.plain, healthyCluster⟩ strictOpened
      (opened.gate.connection? ⟨0⟩).isSome ∧
        opened.gate.attribute? ⟨0⟩ Command.modeAttribute = some "true" ∧
        ∀ m ∈ trail backend (shut backend ⟨0⟩ opened) idle, m.commands ⟨0⟩ = false := by
    decide +kernel
  obtain ⟨hheld, hstrict, hcommand⟩ := hrun
  have hafter :=
    session_after_close backend Gate.ofConfig_plain healthyCluster strictOpened hheld idle
  exact ⟨hstrict, hafter.2 hcommand⟩

/-- A command on a connection that was closed is acknowledged, and the connection has a session
again. -/
theorem session_begins_anew :
    let closed := shut backend ⟨0⟩ (after backend ⟨.plain, healthyCluster⟩ strictOpened)
    let s := after backend closed
      [.call (.connection ⟨0⟩) (.execute "SET SESSION ns.strict_writer = true")]
    closed.gate.sessions.size = 0 ∧ s.gate.sessions.size = 1 ∧
      s.gate.attribute? ⟨0⟩ Command.modeAttribute = some "true" := by
  decide +kernel

end Site

end ClusterGate
