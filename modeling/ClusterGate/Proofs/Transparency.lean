import ClusterGate.Proofs.AfterClose
import ClusterGate.Proofs.Contacts

/-!
# Connections outside strict-writer mode

As long as no command switches strict-writer mode on, a connection is a clear window: what is called
on it and on its statements reaches the driver as it is and in this order, and comes back as it is.
Nothing is left out but the control commands that are consumed, and nothing is added.

The connections of a gate share a session store and a host table, so this needs two things. The mode
of a connection is its own history (`Gate.Recorded`), and no operation takes part in a physical
connection that is not its own (`perform_foreign`).
-/

namespace ClusterGate

/-! ## One physical connection -/

namespace Event

/-- The driver takes part in the event, with this physical connection. -/
def concerns (id : ConnectionId) : Event → Bool
  | .opened other _ _ => other = id
  | .called other _ _ => other = id
  | .logged _ => false

def on (id : ConnectionId) (events : List Event) : List Event := events.filter (concerns id)

theorem on_flatMap {α : Type} (id : ConnectionId) (l : List α) (f : α → List Event) :
    on id (l.flatMap f) = l.flatMap fun a => on id (f a) :=
  List.filter_flatMap

theorem on_contacts (id : ConnectionId) (events : List Event) :
    on id (contacts events) = on id events := by
  rw [on, contacts, List.filter_filter, on]
  congr 1
  funext e
  cases e <;> simp [concerns, isContact]

end Event

/-- The driver takes part in the events with this physical connection only. -/
def Event.Within (id : ConnectionId) (events : List Event) : Prop :=
  ∀ e ∈ contacts events, e.concerns id = true

namespace Event.Within

variable {id : ConnectionId} {events : List Event}

/-- The events of one connection are none of another. -/
theorem on_eq_nil (h : Within id events) {other : ConnectionId} (hother : other ≠ id) :
    on other events = [] := by
  rw [← on_contacts]
  refine List.filter_eq_nil_iff.mpr fun e he => ?_
  have hconcerns := h e he
  cases e with
  | logged entry => simp [concerns]
  | opened own protocol host =>
    have hown : own = id := of_decide_eq_true hconcerns
    simpa [concerns, hown] using hother.symm
  | called own origin request =>
    have hown : own = id := of_decide_eq_true hconcerns
    simpa [concerns, hown] using hother.symm

theorem of_contacts_eq (h : contacts events = []) : Within id events := by
  intro e he
  rw [h] at he
  cases he

end Event.Within

namespace Watch

variable {W : Type} {b : Backend W} (id : ConnectionId)

theorem within_refresh (host : String) (s : Watch W) :
    Event.Within id (refresh b id host s).events := by
  rw [Event.Within, contacts_refresh]
  split <;> simp [Event.concerns]

theorem within_probeConnection (host : HostSpec) (s : Watch W) :
    Event.Within id (probeConnection b id host s).events := by
  have hcapabilities : Event.Within id (probeCapabilities b id s).events := by
    rw [Event.Within, (probeCapabilities_asks b id s).2]
    split <;> simp [Event.concerns]
  cases hprobed : (probeCapabilities b id s).value with
  | error e =>
    rw [probeConnection_failed host hprobed]
    exact hcapabilities
  | ok capabilities =>
    obtain ⟨-, -, hcontacts⟩ := probeConnection_probed host hprobed
    intro e he
    rw [hcontacts] at he
    rcases List.mem_append.mp he with he | he
    · exact hcapabilities e he
    · exact within_refresh id _ _ e he

end Watch

namespace Site

variable {W : Type} {b : Backend W}

/-- A connect concerns no physical connection but the one that it opens. -/
theorem within_connect (protocol : String) (host : HostSpec) (props : Properties) (s : Site W) :
    Event.Within ⟨s.gate.minted⟩ (connect b protocol host props s).events := by
  have hprobing : Event.Within ⟨s.gate.minted⟩ (probing b protocol host props s).events :=
    Watch.within_probeConnection ⟨s.gate.minted⟩ host (opening b protocol host props s).state
  intro e he
  rw [contacts_connect] at he
  rcases List.mem_cons.mp he with rfl | he
  · simp [Event.concerns]
  · cases hopen : (opening b protocol host props s).value with
    | error source => simp [hopen] at he
    | ok _ =>
      rw [hopen] at he
      rcases List.mem_append.mp he with he | he
      · exact hprobing e he
      · cases hprobe : (probing b protocol host props s).value with
        | error source =>
          rw [hprobe] at he
          rw [List.mem_singleton.mp he]
          simp [Event.concerns]
        | ok capabilities => simp [hprobe] at he

/-- A call concerns no physical connection but its own, also while its statement is checked. -/
theorem within_callFor {target : Option Connection} {id : ConnectionId}
    (htarget : ∀ connection ∈ target, connection.id = id) (request : Request) (s : Site W) :
    Event.Within id (callFor b target id request s).events := by
  have hchecked :
      Event.Within id (enforceOn b target request.method request.sql? s).events := by
    by_cases hskip : ∀ connection ∈ target,
        request.method.runsStatement = true → s.gate.isStrict connection.id = false
    · rw [enforceOn_skipped hskip]
      exact .of_contacts_eq rfl
    · -- The check refreshes on the connection of the call.
      simp only [not_forall, Bool.not_eq_false] at hskip
      obtain ⟨connection, rfl, hstatement, hstrict⟩ := hskip
      intro e he
      rw [(enforceOn_checked hstatement hstrict request.sql?).2] at he
      have hrefresh := Watch.within_refresh (b := b) connection.id _ _ e he
      rwa [htarget connection rfl] at hrefresh
  have hproceed : Event.Within id (proceed b target id request s).events := by
    cases hvalue : (enforceOn b target request.method request.sql? s).value with
    | error violation =>
      rw [proceed_refused id hvalue]
      exact hchecked
    | ok _ =>
      intro e he
      rw [(proceed_allowed id hvalue).2.2, Watch.contacts_call] at he
      rcases List.mem_append.mp he with he | he
      · exact hchecked e he
      · rw [List.mem_singleton.mp he]
        simp [Event.concerns]
  -- A command that is consumed does not reach the driver.
  by_cases hpass : request.mode? s.gate.space = none ∨ target = none
  · intro e he
    rw [(callFor_pass b target id request s hpass).2.2] at he
    exact hproceed e he
  · rw [not_or] at hpass
    obtain ⟨enabled, hmode⟩ := Option.ne_none_iff_exists'.mp hpass.1
    obtain ⟨connection, rfl⟩ := Option.ne_none_iff_exists'.mp hpass.2
    exact .of_contacts_eq (callFor_command b connection id request s hmode).2.2

/-- A call takes part in the physical connection of its target. -/
theorem within_perform_call (target : Target) (request : Request) (s : Site W) :
    Event.Within target.owner (perform b (.call target request) s).events := by
  cases hheld : s.gate.connection? target.owner with
  | some connection =>
    have hid := connection?_id hheld
    rw [perform_call_held b hheld, hid]
    refine within_callFor (fun held hsome => ?_) request s
    cases hsome
    exact hid
  | none =>
    cases target with
    | connection id =>
      have hgone : s.gate.connection? id = none := hheld
      rw [perform_call_connection_gone b hgone]
      exact .of_contacts_eq rfl
    | statement statement =>
      have hgone : s.gate.ownerOf statement = none := hheld
      have hcall : Event.Within statement.owner
          (callFor b none statement.owner request s).events :=
        within_callFor (by simp) request s
      simpa [perform, callStatement, Target.owner, hgone] using hcall

/-- An operation that is no call on a connection takes no part in it, once it is open. -/
theorem perform_foreign {s : Site W} {id : ConnectionId} (hid : id.number < s.gate.minted)
    {op : Operation W} (hop : ∀ target request, op = .call target request → target.owner ≠ id) :
    Event.on id (perform b op s).events = [] := by
  cases op with
  | connect protocol host props =>
    have hfresh : id ≠ ⟨s.gate.minted⟩ := by
      rintro rfl
      exact Nat.lt_irrefl _ hid
    have hconnect := (within_connect (b := b) protocol host props s).on_eq_nil hfresh
    simpa [perform] using hconnect
  | call target request =>
    exact (within_perform_call target request s).on_eq_nil (hop target request rfl).symm
  | _ =>
    rw [← Event.on_contacts, contacts_perform_inside (by simp) (by simp)]
    rfl

end Site

/-! ## Calls on one connection -/

namespace Moment

variable {W : Type}

/-- The call that the operation makes on this connection or on one of its statements. -/
def callOn? (m : Moment W) (id : ConnectionId) : Option Request :=
  match m.operation with
  | .call target request =>
    if target.owner = id ∧ target.reaches m.site.gate then some request else none
  | _ => none

/-- The call is a control command and is consumed: the connection whose mode it sets is still held.
-/
def consumes (m : Moment W) (id : ConnectionId) (request : Request) : Bool :=
  (m.site.gate.connection? id).isSome && (request.mode? m.site.gate.space).isSome

/-- The call of the operation on this connection that the driver is to see. -/
def forwarded? (m : Moment W) (id : ConnectionId) : Option Request :=
  (m.callOn? id).filter fun request => !m.consumes id request

theorem consumes_iff {m : Moment W} {id : ConnectionId} {request : Request} :
    m.consumes id request = true ↔
      (m.site.gate.connection? id).isSome ∧ (request.mode? m.site.gate.space).isSome :=
  Bool.and_eq_true_iff

theorem callOn?_eq_some {m : Moment W} {id : ConnectionId} {request : Request}
    (h : m.callOn? id = some request) :
    ∃ target, m.operation = .call target request ∧ target.owner = id ∧
      target.reaches m.site.gate = true := by
  rw [callOn?] at h
  split at h
  · next target own hop =>
    split at h
    · next hreached =>
      cases h
      exact ⟨target, hop, hreached⟩
    · cases h
  · cases h

end Moment

/-- What acknowledges a control command that was consumed. -/
inductive Request.Acknowledged : Request → Outcome → Prop
  | execute (sql : String) : Acknowledged (.execute sql) (.answered (.execute sql) (.ok false))
  | executeUpdate (sql : String) :
    Acknowledged (.executeUpdate sql) (.answered (.executeUpdate sql) (.ok (0 : Int)))
  | executeLargeUpdate (sql : String) :
    Acknowledged (.executeLargeUpdate sql) (.answered (.executeLargeUpdate sql) (.ok (0 : Int)))

theorem Request.acknowledged_of_mode? {space : Namespace} {request : Request} {enabled : Bool}
    (hmode : request.mode? space = some enabled) {acknowledgement : request.Value}
    (hack : request.shape.acknowledgement = some acknowledgement) :
    request.Acknowledged (.answered request (.ok acknowledgement)) := by
  cases request with
  | execute sql =>
    cases hack
    exact .execute sql
  | executeUpdate sql =>
    cases hack
    exact .executeUpdate sql
  | executeLargeUpdate sql =>
    cases hack
    exact .executeLargeUpdate sql
  | _ => cases hmode

namespace Site

variable {W : Type} {b : Backend W}

/-- A call on a connection outside strict-writer mode: a command is consumed, and anything else is
to the driver and to the caller what it would be without a gate. -/
theorem perform_lax {m : Moment W} {id : ConnectionId}
    (hlax : m.site.gate.isStrict id = false) {request : Request}
    (hcall : m.callOn? id = some request) :
    let step := perform b m.operation m.site
    let answered := b.call m.site.world id request
    if m.consumes id request then
      Event.contacts step.events = [] ∧ request.Acknowledged step.value ∧
        step.state.world = m.site.world
    else
      Event.contacts step.events = [.called id .caller request] ∧
        step.value = .answered request (answered.2.result.mapError .driver) ∧
        step.state.world = answered.1 := by
  obtain ⟨target, hop, howner, hreached⟩ := Moment.callOn?_eq_some hcall
  have hstep := perform_call_reached (b := b) hreached request
  rw [howner] at hstep
  simp only [hop, hstep]
  by_cases hconsumed : m.consumes id request = true
  · obtain ⟨hsome, hcommand⟩ := Moment.consumes_iff.mp hconsumed
    obtain ⟨connection, hheld⟩ := Option.isSome_iff_exists.mp hsome
    obtain ⟨enabled, hmode⟩ := Option.isSome_iff_exists.mp hcommand
    obtain ⟨⟨acknowledgement, hack, hvalue⟩, hstate, hcontacts⟩ :=
      callFor_command b connection id request m.site hmode
    rw [if_pos hconsumed, hheld, hcontacts, hvalue, hstate]
    exact ⟨rfl, Request.acknowledged_of_mode? hmode hack, rfl⟩
  · -- Held or not, the connection is not in strict-writer mode, so nothing is checked.
    have hoff : ∀ held ∈ m.site.gate.connection? id, m.site.gate.isStrict held.id = false := by
      intro held hheld
      rw [connection?_id hheld]
      exact hlax
    have hpass := passes_of_not_command (mt Moment.consumes_iff.mpr hconsumed)
    obtain ⟨hvalue, hstate, hcontacts⟩ := callFor_lax (b := b) id request hoff hpass
    rw [if_neg hconsumed, hcontacts, hvalue, hstate, concluded_world]
    exact ⟨rfl, rfl, rfl⟩

/-- What an operation adds to the events of a connection outside strict-writer mode. -/
theorem on_perform {m : Moment W} {id : ConnectionId} (hid : id.number < m.site.gate.minted)
    (hlax : m.site.gate.isStrict id = false) :
    Event.on id (perform b m.operation m.site).events =
      ((m.forwarded? id).map (.called id .caller)).toList := by
  cases hcall : m.callOn? id with
  | some request =>
    have hperformed := perform_lax (b := b) hlax hcall
    rw [← Event.on_contacts, Moment.forwarded?, hcall]
    cases hconsumed : m.consumes id request with
    | true =>
      rw [hconsumed] at hperformed
      simp [hperformed.1, hconsumed, Event.on]
    | false =>
      rw [hconsumed] at hperformed
      simp [hperformed.1, hconsumed, Event.on, Event.concerns, Option.filter]
  | none =>
    have hnone : m.forwarded? id = none := by
      rw [Moment.forwarded?, hcall]
      rfl
    rw [hnone]
    by_cases hgone : ∃ request, m.operation = .call (.connection id) request
    · -- The handle was given up, or there would be a call.
      obtain ⟨request, hop⟩ := hgone
      have habsent : m.site.gate.connection? id = none := by
        simpa [Moment.callOn?, hop, Target.owner, Target.reaches] using hcall
      rw [hop, perform_call_connection_gone b habsent]
      rfl
    · -- Otherwise the operation is no call on this connection at all.
      refine perform_foreign hid fun target request hop howner => ?_
      cases target with
      | connection own =>
        cases howner
        exact hgone ⟨request, hop⟩
      | statement statement =>
        simp [Moment.callOn?, hop, howner, Target.reaches] at hcall

/-! ## Runs -/

/-- A connection that was handed out is held until its handle is given up. -/
theorem held_after_open {protocol : String} {host : HostSpec} {props : Properties} {s : Site W}
    {connection : Connection} (hopen : (connect b protocol host props s).value = .ok connection)
    {later : List (Operation W)} (hkept : ∀ op ∈ later, op ≠ .release connection.id) :
    ∀ m ∈ trail b (connect b protocol host props s).state later,
      (m.site.gate.connection? connection.id).isSome := by
  have hheld : ((connect b protocol host props s).state.gate.connection? connection.id).isSome := by
    refine List.find?_isSome.mpr ⟨connection, ?_, decide_eq_true rfl⟩
    rw [(connect_handles b protocol host props s).1, hopen]
    exact List.mem_append_right _ List.mem_cons_self
  exact forall_mem_trail (P := fun reached => (reached.gate.connection? connection.id).isSome) b
    hheld fun op hop _ => held_perform b (hkept op hop)

section
variable {config : Config} {gate : Gate} (hnew : Gate.ofConfig config = .ok gate) (world : W)
  (ops : List (Operation W)) {protocol : String} {host : HostSpec} {props : Properties}
  {connection : Connection}
  (hopen : (connect b protocol host props (after b ⟨gate, world⟩ ops)).value = .ok connection)
  {later : List (Operation W)}
  (hlax : ∀ m ∈ trail b (connect b protocol host props (after b ⟨gate, world⟩ ops)).state later,
    m.site.gate.modeStep? connection.id m.operation ≠ some (some true))
include hnew hopen hlax

/-- As long as no command switches the mode on, a connection stays outside it. -/
theorem lax_after_open :
    ∀ m ∈ trail b (connect b protocol host props (after b ⟨gate, world⟩ ops)).state later,
      connection.id.number < m.site.gate.minted ∧ m.site.gate.isStrict connection.id = false := by
  intro m hm
  have hopened : after b ⟨gate, world⟩ (ops ++ [.connect protocol host props]) =
      (connect b protocol host props (after b ⟨gate, world⟩ ops)).state := by
    rw [after_concat]
    rfl
  have hminted := (connect_gate b protocol host props (after b ⟨gate, world⟩ ops)).2.1
  have hid : connection.id = ⟨(after b ⟨gate, world⟩ ops).gate.minted⟩ :=
    ((connect_handles b protocol host props _).2 connection (by rw [hopen]; rfl)).1
  constructor
  · have hkept := minted_le_of_mem_trail b hm
    rw [hminted] at hkept
    rw [hid]
    exact hkept
  · obtain ⟨before, rest, rfl, hsite⟩ := mem_trail b hm
    -- The mode of the whole run is what the history since the connect says.
    have hunset : modeOf b ⟨gate, world⟩ (ops ++ [.connect protocol host props]) connection.id =
        none := by
      rw [modeOf_concat, hid]
      exact (recorded_after b hnew world ops).unbegun _ (Nat.le_refl _)
    have hrecorded := recorded_after b hnew world (ops ++ [.connect protocol host props] ++ before)
    rw [after_append, hopened, ← hsite] at hrecorded
    refine Bool.eq_false_iff.mpr fun hstrict => ?_
    obtain ⟨-, hmode⟩ := hrecorded.isStrict_iff.mp hstrict
    rw [modeOf_append b _ hunset, hopened] at hmode
    obtain ⟨m', hm', hstep⟩ := exists_modeStep_of_modeOf b hmode
    refine hlax m' ?_ hstep
    rw [trail_append]
    exact List.mem_append_left _ hm'

end

/-- As long as no command that is consumed switches strict-writer mode on for a connection, the
driver sees of it the calls that are made on it and on its statements, as they are and in this
order, and nothing else: commands that are consumed are left out and acknowledged, and no probe is
added. Every other call returns what the driver answers, and leaves the world as the driver leaves
it. This is so whatever happens on other connections and to the cluster. Until the handle of the
connection is given up, the commands that are consumed are those that are recognised. -/
theorem lax_connection_transparent {config : Config} {gate : Gate}
    (hnew : Gate.ofConfig config = .ok gate) (world : W) (ops : List (Operation W))
    {protocol : String} {host : HostSpec} {props : Properties} {connection : Connection}
    (hopen : (connect b protocol host props (after b ⟨gate, world⟩ ops)).value = .ok connection)
    (later : List (Operation W))
    (hlax : ∀ m ∈ trail b (connect b protocol host props (after b ⟨gate, world⟩ ops)).state later,
      m.site.gate.modeStep? connection.id m.operation ≠ some (some true)) :
    let id := connection.id
    let opened := (connect b protocol host props (after b ⟨gate, world⟩ ops)).state
    let run := trail b opened later
    Event.on id (emitted b opened later) =
        (run.filterMap (·.forwarded? id)).map (.called id .caller) ∧
      (∀ m ∈ run, ∀ request, m.callOn? id = some request →
        let step := perform b m.operation m.site
        let answered := b.call m.site.world id request
        if m.consumes id request then
          Event.contacts step.events = [] ∧ request.Acknowledged step.value ∧
            step.state.world = m.site.world
        else
          Event.contacts step.events = [.called id .caller request] ∧
            step.value = .answered request (answered.2.result.mapError .driver) ∧
            step.state.world = answered.1) ∧
      ((∀ op ∈ later, op ≠ .release id) → ∀ m ∈ run, ∀ request,
        m.consumes id request = (request.mode? gate.space).isSome) := by
  intro id opened run
  have hstays := lax_after_open hnew world ops hopen hlax
  refine ⟨?_, fun m hm request hcall => perform_lax (hstays m hm).2 hcall,
    fun hkept m hm request => ?_⟩
  · -- The events of the run are those of its operations, each with one call or with none.
    have hevents : ∀ m ∈ run, Event.on id (perform b m.operation m.site).events =
        ((m.forwarded? id).map (.called id .caller)).toList :=
      fun m hm => on_perform (hstays m hm).1 (hstays m hm).2
    rw [emitted, Event.on_flatMap, List.flatMap_congr hevents, List.map_filterMap,
      List.filterMap_eq_flatMap_toList]
  · have hspace : m.site.gate.space = gate.space := by
      obtain ⟨before, -, -, hsite⟩ := mem_trail b hm
      rw [hsite, space_after, (connect_gate b protocol host props _).1, space_after]
    rw [Moment.consumes, held_after_open hopen hkept m hm, Bool.true_and, hspace]

/-- Calls on a connection to a reader, while another connection goes into strict-writer mode, is
probed and writes, and while the reader is promoted. -/
def bystander : List (Operation Nat) :=
  let off := "SET SESSION ns.strict_writer = false"
  [.call (.connection ⟨0⟩) (.execute off), .connect "jdbc" ⟨"a", 5432, .reader⟩ ∅,
    .call (.connection ⟨1⟩) (.execute "SET SESSION ns.strict_writer = true"),
    .call (.statement ⟨⟨0⟩⟩) (.executeQuery off), .applyTopology [⟨"db", 5432, .writer⟩],
    .call (.connection ⟨1⟩) (.executeUpdate "insert"),
    .call (.statement ⟨⟨0⟩⟩) (.executeUpdate "insert"), .call (.connection ⟨0⟩) .isValid,
    .call (.connection ⟨0⟩) .close, .call (.statement ⟨⟨0⟩⟩) (.executeLargeUpdate off)]

/-- Of the three commands the one that is a query reaches the driver. -/
theorem lax_connection_transparent_bystander :
    let connected := connect (.moving []) "jdbc" ⟨"db", 5432, .reader⟩ ∅ ⟨.plain, 0⟩
    Event.on ⟨0⟩ (emitted (.moving []) connected.state bystander) =
      [.executeQuery "SET SESSION ns.strict_writer = false", .executeUpdate "insert", .isValid,
        .close].map (.called ⟨0⟩ .caller) := by
  intro connected
  have hopen : connected.value =
      .ok ⟨⟨0⟩, ⟨"db", 5432, .reader⟩, .ofVersion (.ofLine "on") false⟩ := by
    decide +kernel
  have hlax : ∀ m ∈ trail (.moving []) connected.state bystander,
      m.site.gate.modeStep? ⟨0⟩ m.operation ≠ some (some true) := by
    decide +kernel
  have htransparent := lax_connection_transparent Gate.ofConfig_plain 0 [] hopen bystander hlax
  exact htransparent.1.trans (by decide +kernel)

end Site

end ClusterGate
