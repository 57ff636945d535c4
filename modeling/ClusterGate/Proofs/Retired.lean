import ClusterGate.Proofs.AfterClose
import ClusterGate.Proofs.Contacts
import ClusterGate.Proofs.Likeness

/-!
# Calls on a connection that was closed

Connections share the host table, and a check that probes for one of them writes down what all of
them go by. A connection outside strict-writer mode is never checked, though, and a close ends the
mode. So calls that are still made on it, or on its statements, are nothing to the others: a run
without them goes the same way (`run_without_retired`).

A command that is consumed after the close is the exception. It begins the mode anew, and the next
check probes on a connection that can only fail.
-/

namespace ClusterGate

/-- The operation is a call on this connection or on one of its statements. -/
def Operation.callsOn {W : Type} (id : ConnectionId) : Operation W → Bool
  | .call target _ => target.owner = id
  | _ => false

/-- A run without the calls on this connection and on its statements. -/
def Operation.without {W : Type} (id : ConnectionId) (ops : List (Operation W)) :
    List (Operation W) :=
  ops.filter (!·.callsOn id)

namespace Site

variable {W : Type} {b : Backend W} {hidden : ConnectionId} {twin : W → W → Prop}

/-! ## Operations without the hidden connection -/

/-- What is not a call on the hidden connection goes the same way in both runs. -/
theorem respects_perform (h : b.Hides hidden twin) {op : Operation W}
    (hop : op.callsOn hidden = false) (helapse : ∀ world, op = .elapse world → twin world world) :
    (perform b op).Respects (Twin hidden twin) := by
  cases op with
  | connect protocol host props =>
    exact .bind (respects_connect h protocol host props) fun _ => .pure _
  | call target request =>
    have howner : target.owner ≠ hidden := of_decide_eq_false hop
    cases target with
    | connection id =>
      refine .bind_of (respects_read (·.connection? id)) fun s s' hs => ?_
      cases hheld : s.gate.connection? id with
      | none =>
        rw [Act.read_apply, hheld]
        exact .pure _
      | some connection =>
        -- A handle has the lifetime that it is held under.
        have hid : connection.id ≠ hidden := (connection?_id hheld).trans_ne howner
        have htarget : ∀ held ∈ some connection, held.id ≠ hidden := by
          rintro held ⟨rfl⟩
          exact hid
        rw [Act.read_apply, hheld]
        exact .bind (respects_callFor h htarget hid request) fun _ => .pure _
    | statement statement =>
      refine .bind ?_ fun _ => .pure _
      refine .bind_of (respects_read (·.ownerOf statement)) fun s s' hs => ?_
      refine respects_callFor h (fun connection hheld => ?_) howner request
      exact (connection?_id hheld).trans_ne howner
  | release id =>
    refine .bind (respects_read (·.connection? id)) fun held => ?_
    cases held with
    | none => exact .pure _
    | some connection => exact .bind (respects_release connection) fun _ => .pure _
  | purge => exact .bind respects_purge fun _ => .pure _
  | announce hosts => exact .bind (respects_announce hosts) fun _ => .pure _
  | applyTopology hosts => exact .bind (respects_applyTopology hosts) fun _ => .pure _
  | seed source => exact .bind (respects_seed source) fun _ => .pure _
  | elapse world =>
    refine .bind (.update fun s s' hs => ?_) fun _ => .pure _
    exact ⟨hs.gate, helapse world rfl, hs.begun⟩

/-! ## Calls on the hidden connection -/

/-- A call on a connection without a session changes what its driver call changes. -/
theorem callFor_unset {target : Option Connection} {id : ConnectionId} {s : Site W}
    (htarget : ∀ connection ∈ target, connection.id = id)
    (hunset : s.gate.sessions.find? id = none) {request : Request}
    (hcommand : request.mode? s.gate.space = none ∨ target = none) :
    (callFor b target id request s).state =
      s.resume (Watch.call b .caller id request s.watch).state := by
  have hlax : ∀ connection ∈ target, s.gate.isStrict connection.id = false := by
    intro connection hconnection
    rw [htarget connection hconnection, Gate.isStrict, Gate.attribute?, Sessions.get?, hunset]
    rfl
  rw [(callFor_lax id request hlax hcommand).2.1]
  cases target with
  | none => rfl
  | some connection =>
    rw [concluded]
    split
    · -- A close has no session left to clear.
      rw [clearAttributes_state, htarget connection rfl]
      show Site.mk { s.gate with
        tracker := _, sessions := s.gate.sessions.clear id } _ = _
      rw [Sessions.clear_of_unset hunset]
      rfl
    · rfl

/-- A call on the hidden connection that finds no session, is no command and brings no topology
change is seen only by the world. -/
theorem twin_call_hidden (h : b.Hides hidden twin) {s s' : Site W} (hs : Twin hidden twin s s')
    {target : Target} (howner : target.owner = hidden)
    (hunset : s.gate.sessions.find? hidden = none) {request : Request}
    (hcommand : request.mode? s.gate.space = none ∨ s.gate.connection? hidden = none)
    (hpushes : (b.call s.world hidden request).2.pushes = []) :
    Twin hidden twin (perform b (.call target request) s).state s' := by
  subst howner
  rcases perform_call_state b target request s with hstate | ⟨-, hstate⟩
  · rw [hstate, callFor_unset (fun _ hheld => connection?_id hheld) hunset hcommand,
      Watch.call_state]
    have hreceived : s.watch.tracker.receiveAll
        (b.call s.watch.world target.owner request).2.pushes = s.gate.tracker := by
      rw [watch, hpushes]
      rfl
    refine ⟨?_, h.unseen hs.world request, hs.begun⟩
    rw [resume, hreceived]
    exact hs.gate
  · rw [hstate]
    exact hs

/-! ## Runs -/

/-- A call that consumes no command is none, or its connection is gone. -/
theorem mode?_of_not_commands {s : Site W} {target : Target} {request : Request}
    (h : (Moment.mk s (.call target request)).commands target.owner = false) :
    request.mode? s.gate.space = none ∨ s.gate.connection? target.owner = none := by
  cases hconnection : s.gate.connection? target.owner with
  | none => exact .inr rfl
  | some connection =>
    cases hmode : request.mode? s.gate.space with
    | none => exact .inl rfl
    | some enabled =>
      simp [Moment.commands, Gate.modeStep?, Request.modeChange?, hconnection, hmode] at h

/-- Closing a connection is seen by the world of that connection. -/
theorem shut_state {s : Site W} {id : ConnectionId} (hheld : (s.gate.connection? id).isSome) :
    (shut b id s).world = (b.call s.world id .close).1 ∧
      (shut b id s).gate.minted = s.gate.minted := by
  constructor
  · obtain ⟨connection, hconnection⟩ := Option.isSome_iff_exists.mp hheld
    have hid : connection.id = id := connection?_id hconnection
    have hchecked :
        (enforceOn b (some connection) Request.close.method Request.close.sql? s).value = .ok () :=
      rfl
    obtain ⟨-, hstate, -⟩ := callFor_pass b (some connection) id .close s (.inl rfl)
    obtain ⟨-, hproceed, -⟩ := proceed_allowed id hchecked
    rw [shut, perform_call_held b hconnection, hid, hstate, hproceed]
    rfl
  · exact (perform_call_alike b (.connection id) .close s).minted

end Site

/-- The topology changes that arrive with the driver's answer to a call on this connection. -/
def Moment.brings {W : Type} (b : Backend W) (id : ConnectionId) (m : Moment W) :
    List TopologyPush :=
  match m.operation with
  | .call target request =>
    if target.owner = id then (b.call m.site.world id request).2.pushes else []
  | _ => []

theorem Moment.brings_call {W : Type} (b : Backend W) (s : Site W) (target : Target)
    (request : Request) :
    (Moment.mk s (.call target request)).brings b target.owner =
      (b.call s.world target.owner request).2.pushes :=
  if_pos rfl

/-- What is seen of an operation: the gate that it finds, what it returns and what it emits. -/
def Moment.shown {W : Type} (b : Backend W) (m : Moment W) : Gate × Outcome × List Event :=
  let step := Site.perform b m.operation m.site
  (m.site.gate, step.value, step.events)

namespace Site

variable {W : Type} {b : Backend W}

section
variable {config : Config} {gate : Gate} (hnew : Gate.ofConfig config = .ok gate) (world : W)
  (ops : List (Operation W)) {id : ConnectionId}
  (hheld : ((after b ⟨gate, world⟩ ops).gate.connection? id).isSome)
  {twin : W → W → Prop} (hhides : b.Hides id twin)
  (hclosed : ∀ w, twin (b.call w id .close).1 (b.call w id .close).1)
  (later : List (Operation W)) (helapse : ∀ w, .elapse w ∈ later → twin w w)
  (hcommand : ∀ m ∈ trail b (shut b id (after b ⟨gate, world⟩ ops)) later, m.commands id = false)
  (hquiet : ∀ m ∈ trail b (shut b id (after b ⟨gate, world⟩ ops)) later, m.brings b id = [])
include hnew hheld hhides hclosed helapse hcommand hquiet

/-- Side by side with a run without the calls on a connection that was closed, the sites stay twins.
-/
theorem twin_after_retired :
    let closed := shut b id (after b ⟨gate, world⟩ ops)
    Twin id twin (after b closed later) (after b closed (Operation.without id later)) ∧
      ((trail b closed later).filter (!·.operation.callsOn id)).map (·.shown b) =
        (trail b closed (Operation.without id later)).map (·.shown b) := by
  intro closed
  induction later using List.reverseRecOn with
  | nil =>
    -- Both runs begin in one state, which is its own twin.
    have hnumbered := numbered_after b hnew world ops
    obtain ⟨connection, hconnection⟩ := Option.isSome_iff_exists.mp hheld
    have hbegun := hnumbered.begun connection (List.mem_of_find?_eq_some hconnection)
    rw [connection?_id hconnection] at hbegun
    obtain ⟨hworld, hminted⟩ := shut_state (b := b) hheld
    refine ⟨⟨rfl, ?_, ?_⟩, rfl⟩
    · show twin closed.world closed.world
      rw [hworld]
      exact hclosed _
    · show id.number < closed.gate.minted
      rw [hminted]
      exact hbegun
  | append_singleton later op ih =>
    simp only [trail_concat, List.mem_append, List.mem_singleton] at helapse hcommand hquiet
    obtain ⟨htwin, hshown⟩ := ih (fun w hw => helapse w (.inl hw))
      (fun m hm => hcommand m (.inl hm)) (fun m hm => hquiet m (.inl hm))
    have hlast := hcommand _ (.inr rfl)
    have hbrings := hquiet _ (.inr rfl)
    have hunset := unset_after_close b hnew world ops hheld later fun m hm => hcommand m (.inl hm)
    rw [trail_concat, after_concat, Operation.without, List.filter_append, List.filter_append,
      List.map_append]
    rw [Operation.without] at htwin hshown
    by_cases hcall : op.callsOn id = true
    · -- A call on the closed connection is left out of the other run.
      cases op with
      | call target request =>
        have howner : target.owner = id := of_decide_eq_true hcall
        have hdropped : [Operation.call target request].filter (!·.callsOn id) =
            ([] : List (Operation W)) := by simp [hcall]
        subst howner
        rw [hdropped, List.append_nil]
        refine ⟨?_, ?_⟩
        · have hpushes := hbrings
          rw [Moment.brings_call] at hpushes
          exact twin_call_hidden hhides htwin rfl hunset (mode?_of_not_commands hlast) hpushes
        · simpa [hcall] using hshown
      | _ => cases hcall
    · -- Any other operation is done in both runs.
      have hkept : [op].filter (!·.callsOn id) = [op] := by simp [hcall]
      have hlike := respects_perform hhides (Bool.eq_false_iff.mpr hcall)
        (fun w hw => helapse w (.inr hw.symm)) htwin
      rw [hkept, trail_concat, after_concat, List.map_append, hshown]
      refine ⟨hlike.state, ?_⟩
      simp [Moment.shown, hcall, htwin.gate, hlike.value, hlike.events]

end

/-- Once a connection was closed, calls on it and on its statements that are consumed as no command
and bring no topology change make no difference to anything else. A run without them has the same
gate at every point, so the same host records, and every other operation returns the same and makes
the same driver calls. -/
theorem run_without_retired {config : Config} {gate : Gate}
    (hnew : Gate.ofConfig config = .ok gate) (world : W) (ops : List (Operation W))
    {id : ConnectionId} (hheld : ((after b ⟨gate, world⟩ ops).gate.connection? id).isSome)
    {twin : W → W → Prop} (hhides : b.Hides id twin)
    (hclosed : ∀ w, twin (b.call w id .close).1 (b.call w id .close).1)
    (later : List (Operation W)) (helapse : ∀ w, .elapse w ∈ later → twin w w)
    (hcommand : ∀ m ∈ trail b (shut b id (after b ⟨gate, world⟩ ops)) later,
      m.commands id = false)
    (hquiet : ∀ m ∈ trail b (shut b id (after b ⟨gate, world⟩ ops)) later,
      m.brings b id = []) :
    let closed := shut b id (after b ⟨gate, world⟩ ops)
    (∀ seen, seen <+: later →
        (after b closed seen).gate = (after b closed (Operation.without id seen)).gate) ∧
      ((trail b closed later).filter (!·.operation.callsOn id)).map (·.shown b) =
        (trail b closed (Operation.without id later)).map (·.shown b) := by
  intro closed
  constructor
  · rintro seen ⟨rest, rfl⟩
    -- What holds of the operations of a run holds of those that it begins with.
    have hmem : ∀ m ∈ trail b closed seen, m ∈ trail b closed (seen ++ rest) := by
      intro m hm
      rw [trail_append]
      exact List.mem_append_left _ hm
    obtain ⟨htwin, -⟩ := twin_after_retired hnew world ops hheld hhides hclosed seen
      (fun w hw => helapse w (List.mem_append_left _ hw)) (fun m hm => hcommand m (hmem m hm))
      (fun m hm => hquiet m (hmem m hm))
    exact htwin.gate
  · exact (twin_after_retired hnew world ops hheld hhides hclosed later helapse hcommand hquiet).2

end Site

/-! ## Scripted clusters -/

/-- The clusters differ at most in one connection. -/
structure ScriptedCluster.AlikeBut (id : ConnectionId) (w w' : ScriptedCluster) : Prop where
  behaviours : w.behaviours = w'.behaviours
  announces : w.announces = w'.announces
  clock : w.clock = w'.clock
  links : ∀ other, other ≠ id → w.links.get? other = w'.links.get? other

namespace ScriptedCluster

theorem AlikeBut.refl (id : ConnectionId) (w : ScriptedCluster) : AlikeBut id w w :=
  ⟨rfl, rfl, rfl, fun _ _ => rfl⟩

section
variable {id : ConnectionId} {w w' : ScriptedCluster} (h : AlikeBut id w w')
include h

theorem AlikeBut.behaviour (host : String) : w.behaviour host = w'.behaviour host := by
  rw [ScriptedCluster.behaviour, ScriptedCluster.behaviour, h.behaviours]

/-- The same link is put in for the same connection. -/
theorem AlikeBut.insert (other : ConnectionId) (l : ScriptedLink) :
    AlikeBut id { w with links := w.links.insert other l }
      { w' with links := w'.links.insert other l } := by
  refine ⟨h.behaviours, h.announces, h.clock, fun key hkey => ?_⟩
  rw [Dict.get?_insert, Dict.get?_insert, h.links key hkey]

end

/-- No connection of a scripted cluster shows what is done on another one. -/
theorem hides (id : ConnectionId) : backend.Hides id (AlikeBut id) where
  now h := h.clock
  url h hid := by
    show ((Dict.get? _ _).map _).getD "" = ((Dict.get? _ _).map _).getD ""
    rw [h.links _ hid]
  connect {w w' other} h hid protocol host props := by
    show (w.connect other protocol host).2 = (w'.connect other protocol host).2 ∧
      AlikeBut id (w.connect other protocol host).1 (w'.connect other protocol host).1
    rw [ScriptedCluster.connect, ScriptedCluster.connect, h.behaviour]
    split
    · exact ⟨rfl, h⟩
    · exact ⟨rfl, h.insert other _⟩
  call {w w' other} h hid request := by
    show (w.call other request).2 = (w'.call other request).2 ∧
      AlikeBut id (w.call other request).1 (w'.call other request).1
    -- Topologies are laid down for a host and not for a connection.
    have hpushes (host : String) : w.pushes host request = w'.pushes host request := by
      rw [pushes, pushes, h.behaviour, h.announces]
    rw [ScriptedCluster.call, ScriptedCluster.call, h.links other hid]
    cases w'.links.get? other with
    | none => exact ⟨rfl, h⟩
    | some l =>
      dsimp only
      rw [h.behaviour, hpushes]
      refine ⟨rfl, ?_⟩
      split
      · exact h.insert other _
      · exact h
  unseen {w w'} h request := by
    show AlikeBut id (w.call id request).1 w'
    rw [ScriptedCluster.call]
    cases w.links.get? id with
    | none => exact h
    | some l =>
      dsimp only
      split
      · refine ⟨h.behaviours, h.announces, h.clock, fun key hkey => ?_⟩
        rw [Dict.get?_insert, if_neg hkey, h.links key hkey]
      · exact h

end ScriptedCluster

namespace Site

open ScriptedCluster (backend)

def forwardingCluster : ScriptedCluster :=
  let on := Reply.rows (.singleColumn "result" [some "on"])
  healthyCluster.layDown "db" { Behaviour.healthy with
    replies := (∅ : Dict String Reply).insert forwardingQuery on }

/-- Two connections to a server that is a reader from then on. -/
def bothOpened : List (Operation ScriptedCluster) :=
  [.connect "jdbc" ⟨"db", 5432, .writer⟩ ∅, .connect "jdbc" ⟨"db", 5432, .writer⟩ ∅,
    .announce [⟨"db", 5432, .reader⟩]]

def strictCommand : Request := .execute "SET SESSION ns.strict_writer = 'true'"

/-- Calls on the first connection, and a checked statement on the second one. -/
def stragglers : List (Operation ScriptedCluster) :=
  [.call (.connection ⟨0⟩) (.executeUpdate "insert"), .call (.statement ⟨⟨0⟩⟩) (.execute "select"),
    .call (.connection ⟨1⟩) strictCommand, .call (.connection ⟨0⟩) .close,
    .call (.connection ⟨1⟩) (.executeUpdate "insert")]

/-- The first connection was closed, so the second one is all that counts. -/
theorem run_without_retired_stragglers :
    let closed := shut backend ⟨0⟩ (after backend ⟨.plain, forwardingCluster⟩ bothOpened)
    (after backend closed stragglers).gate =
      (after backend closed [.call (.connection ⟨1⟩) strictCommand,
        .call (.connection ⟨1⟩) (.executeUpdate "insert")]).gate := by
  have hrun :
      let opened := after backend ⟨.plain, forwardingCluster⟩ bothOpened
      (opened.gate.connection? ⟨0⟩).isSome ∧
        (∀ m ∈ trail backend (shut backend ⟨0⟩ opened) stragglers, m.commands ⟨0⟩ = false) ∧
        ∀ m ∈ trail backend (shut backend ⟨0⟩ opened) stragglers, m.brings backend ⟨0⟩ = [] := by
    decide +kernel
  obtain ⟨hheld, hcommand, hquiet⟩ := hrun
  have hlike := run_without_retired Gate.ofConfig_plain forwardingCluster bothOpened hheld
    (ScriptedCluster.hides ⟨0⟩) (fun w => ScriptedCluster.AlikeBut.refl ⟨0⟩ _) stragglers
    (fun w _ => ScriptedCluster.AlikeBut.refl ⟨0⟩ w) hcommand hquiet
  exact hlike.1 stragglers (List.prefix_refl stragglers)

/-- With a command consumed after the close it is another matter: the probe on the closed connection
fails, and the server counts as one that does not forward writes for the second connection too. -/
theorem retired_command_disturbs :
    let closed := shut backend ⟨0⟩ (after backend ⟨.plain, forwardingCluster⟩ bothOpened)
    let calls := [Operation.call (.connection ⟨0⟩) strictCommand,
      .call (.connection ⟨0⟩) (.executeUpdate "insert"),
      .call (.connection ⟨1⟩) strictCommand]
    let insert := Request.executeUpdate "insert"
    let checked (ops : List (Operation ScriptedCluster)) :=
      perform backend (.call (.connection ⟨1⟩) insert) (after backend closed ops)
    .called ⟨1⟩ .caller insert ∉ (checked calls).events ∧
      .called ⟨1⟩ .caller insert ∈ (checked (Operation.without ⟨0⟩ calls)).events ∧
      ((checked calls).state.gate.tracker.record? "db").map (·.forwarding) = some false ∧
      ((checked (Operation.without ⟨0⟩ calls)).state.gate.tracker.record? "db").map
        (·.forwarding) = some true := by
  decide +kernel

end Site

end ClusterGate
