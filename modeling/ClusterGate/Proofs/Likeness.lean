import ClusterGate.Proofs.Probing
import ClusterGate.Proofs.Run

/-!
# Runs side by side

Two sites can differ in something that only one connection shows, and whatever is done without that
connection then goes the same way on both. The statement is about actions: one that `Respects` a
relation of states does the same from related states, returns and emits the same, and leaves related
states. This is closed under sequencing, so it is read off the way an action is put together.

What the world has to do for this is `Backend.Hides`: worlds that are twins answer alike on every
connection but one.
-/

namespace ClusterGate

/-! ## Actions that respect a relation -/

/-- Two outcomes agree in what is seen of them, and leave related states. -/
structure Step.Like {ε σ α : Type} (R : σ → σ → Prop) (first second : Step ε σ α) : Prop where
  value : first.value = second.value
  events : first.events = second.events
  state : R first.state second.state

/-- From related states the action does the same. -/
def Act.Respects {ε σ α : Type} (R : σ → σ → Prop) (x : Act ε σ α) : Prop :=
  ∀ ⦃s s'⦄, R s s' → (x s).Like R (x s')

namespace Act.Respects

variable {ε σ τ α β : Type} {R : σ → σ → Prop}

theorem pure (a : α) : Respects R (Pure.pure a : Act ε σ α) := fun _ _ hR => ⟨rfl, rfl, hR⟩

theorem emit (events : List ε) : Respects R (Act.emit events) := fun _ _ hR => ⟨rfl, rfl, hR⟩

theorem read {f : σ → α} (hf : ∀ ⦃s s'⦄, R s s' → f s = f s') :
    Respects R (Act.read f : Act ε σ α) :=
  fun _ _ hR => ⟨hf hR, rfl, hR⟩

theorem update {f : σ → σ} (hf : ∀ ⦃s s'⦄, R s s' → R (f s) (f s')) :
    Respects R (Act.update f : Act ε σ Unit) :=
  fun _ _ hR => ⟨rfl, rfl, hf hR⟩

/-- The second action has to respect the relation for the values only that the first one can have.
-/
theorem bind_of {x : Act ε σ α} (hx : Respects R x) {f : α → Act ε σ β}
    (hf : ∀ ⦃s s'⦄, R s s' → Respects R (f (x s).value)) : Respects R (x >>= f) := by
  intro s s' hR
  have hfirst := hx hR
  have hsecond := hf hR hfirst.state
  -- In both runs the second action is the one for the same value.
  rw [hfirst.value] at hsecond
  refine ⟨?_, ?_, ?_⟩
  · simp only [Act.bind_value, hfirst.value]
    exact hsecond.value
  · simp only [Act.bind_events, hfirst.events, hfirst.value]
    rw [hsecond.events]
  · simp only [Act.bind_state, hfirst.value]
    exact hsecond.state

theorem bind {x : Act ε σ α} (hx : Respects R x) {f : α → Act ε σ β}
    (hf : ∀ a, Respects R (f a)) : Respects R (x >>= f) :=
  hx.bind_of fun _ _ _ => hf _

theorem ite {x y : Act ε σ α} (hx : Respects R x) (c : Prop) [Decidable c] (hy : Respects R y) :
    Respects R (if c then x else y) := by
  split
  · exact hx
  · exact hy

theorem within {Q : τ → τ → Prop} {part : τ → σ} {put : σ → τ → τ} {x : Act ε σ α}
    (hx : Respects R x) (hpart : ∀ ⦃t t'⦄, Q t t' → R (part t) (part t'))
    (hput : ∀ ⦃t t' s s'⦄, Q t t' → R s s' → Q (put s t) (put s' t')) :
    Respects Q (Act.within part put x) := by
  intro t t' hQ
  have hinner := hx (hpart hQ)
  exact ⟨hinner.value, hinner.events, hput hQ hinner.state⟩

end Act.Respects

/-! ## Worlds that one connection tells apart -/

/-- Worlds that are twins tell the same time and answer the same on every connection but this one,
and stay twins when something is done on another connection, or in one of them on this one. -/
structure Backend.Hides {W : Type} (b : Backend W) (hidden : ConnectionId) (twin : W → W → Prop) :
    Prop where
  now : ∀ {w w'}, twin w w' → b.now w = b.now w'
  url : ∀ {w w' id}, twin w w' → id ≠ hidden → b.url w id = b.url w' id
  connect : ∀ {w w' id}, twin w w' → id ≠ hidden → ∀ protocol host props,
    (b.connect w id protocol host props).2 = (b.connect w' id protocol host props).2 ∧
      twin (b.connect w id protocol host props).1 (b.connect w' id protocol host props).1
  call : ∀ {w w' id}, twin w w' → id ≠ hidden → ∀ request,
    (b.call w id request).2 = (b.call w' id request).2 ∧
      twin (b.call w id request).1 (b.call w' id request).1
  unseen : ∀ {w w'}, twin w w' → ∀ request, twin (b.call w hidden request).1 w'

/-- The same host table in twin worlds. -/
structure Watch.Twin {W : Type} (twin : W → W → Prop) (s s' : Watch W) : Prop where
  tracker : s.tracker = s'.tracker
  world : twin s.world s'.world

/-- The same gate in twin worlds. The lifetime of the hidden connection was begun, so that no
connection opened from now on is taken for it. -/
structure Site.Twin {W : Type} (hidden : ConnectionId) (twin : W → W → Prop) (s s' : Site W) :
    Prop where
  gate : s.gate = s'.gate
  world : twin s.world s'.world
  begun : hidden.number < s.gate.minted

/-! ## Work on the host table -/

namespace Watch

variable {W : Type} {b : Backend W} {hidden id : ConnectionId} {twin : W → W → Prop}

theorem respects_log (entries : List LogEntry) :
    (log entries : Act Event (Watch W) Unit).Respects (Twin twin) :=
  .emit _

theorem respects_track (f : Tracker → Tracker) :
    (track f : Act Event (Watch W) Unit).Respects (Twin twin) :=
  .update fun _ _ hs => ⟨congrArg f hs.tracker, hs.world⟩

theorem respects_read {α : Type} (f : Tracker → α) :
    (Act.read fun s => f s.tracker : Act Event (Watch W) α).Respects (Twin twin) :=
  .read fun _ _ hs => congrArg f hs.tracker

theorem respects_ensure (host : String) (role : HostRole) :
    (ensure host role : Act Event (Watch W) HostRecord).Respects (Twin twin) := by
  unfold ensure
  refine .bind (respects_read fun t => t) fun t => ?_
  refine .bind (respects_log _) fun _ => ?_
  exact .bind (respects_track _) fun _ => .pure _

section
variable (h : b.Hides hidden twin)
include h

theorem respects_now : (now b).Respects (Twin twin) := .read fun _ _ hs => h.now hs.world

theorem respects_url (hid : id ≠ hidden) : (url b id).Respects (Twin twin) :=
  .read fun _ _ hs => h.url hs.world hid

/-- The world that a call leaves can differ, so this is no matter of sequencing. -/
theorem respects_call (hid : id ≠ hidden) (origin : Origin) (request : Request) :
    (call b origin id request).Respects (Twin twin) := by
  intro s s' hs
  obtain ⟨hanswer, hworld⟩ := h.call hs.world hid request
  refine ⟨?_, ?_, ?_⟩
  · show (b.call s.world id request).2.result = (b.call s'.world id request).2.result
    rw [hanswer]
  · simp [call, takeIn, hanswer, hs.tracker]
  · rw [call_state, call_state, hanswer, hs.tracker]
    exact ⟨rfl, hworld⟩

theorem respects_connect (hid : id ≠ hidden) (protocol : String) (host : HostSpec)
    (props : Properties) : (connect b id protocol host props).Respects (Twin twin) := by
  intro s s' hs
  obtain ⟨hanswer, hworld⟩ := h.connect hs.world hid protocol host props
  refine ⟨?_, ?_, ?_⟩
  · simp [connect, takeIn, hanswer]
  · simp [connect, takeIn, hanswer, hs.tracker]
  · simp only [connect, takeIn, Act.bind_state, Act.read_apply, Act.emit_apply, hanswer,
      hs.tracker]
    exact ⟨rfl, hworld⟩

theorem respects_probeForwarding (hid : id ≠ hidden) :
    (probeForwarding b id).Respects (Twin twin) := by
  unfold probeForwarding
  refine .bind (respects_call h hid .probe _) fun answer => ?_
  cases answer with
  | ok result => exact .pure _
  | error e => exact .bind (respects_url h hid) fun _ => .bind (respects_log _) fun _ => .pure _

theorem respects_probeMarker (hid : id ≠ hidden) : (probeMarker b id).Respects (Twin twin) := by
  unfold probeMarker
  refine .bind (respects_call h hid .probe _) fun answer => ?_
  cases answer with
  | ok result => exact .pure _
  | error e => exact .bind (respects_log _) fun _ => .pure _

theorem respects_capabilitiesOf (hid : id ≠ hidden) (line : String) :
    (capabilitiesOf b id line).Respects (Twin twin) := by
  unfold capabilitiesOf
  refine .bind (respects_log _) fun _ => ?_
  dsimp only
  split
  · refine .bind (respects_probeMarker h hid) fun cluster => ?_
    exact .bind (respects_log _) fun _ => .pure _
  · refine .bind (.pure false) fun cluster => ?_
    exact .bind (respects_log _) fun _ => .pure _

theorem respects_probeCapabilities (hid : id ≠ hidden) :
    (probeCapabilities b id).Respects (Twin twin) := by
  unfold probeCapabilities
  refine .bind (respects_call h hid .probe _) fun answer => ?_
  cases answer with
  | error e => exact .pure _
  | ok result =>
    dsimp only
    cases result.firstValue? with
    | none => exact .bind (respects_url h hid) fun _ => .bind (respects_log _) fun _ => .pure _
    | some line => exact .bind (respects_capabilitiesOf h hid line) fun _ => .pure _

theorem respects_settle (host : String) (enabled : Bool) :
    (settle b host enabled).Respects (Twin twin) := by
  unfold settle
  refine .bind (respects_now h) fun time => ?_
  refine .bind (respects_read fun t => t) fun t => ?_
  refine .bind (respects_log _) fun _ => ?_
  exact .bind (respects_track _) fun _ => respects_read (·.record? host)

theorem respects_refresh (hid : id ≠ hidden) (host : String) :
    (refresh b id host).Respects (Twin twin) := by
  unfold refresh
  refine .bind (respects_read fun t => t) fun t => ?_
  cases t.record? host with
  | none => exact .pure _
  | some snapshot =>
    refine .bind (respects_now h) fun time => ?_
    split
    · exact .bind (respects_probeForwarding h hid) fun enabled => respects_settle h host enabled
    · exact .pure _

theorem respects_probeConnection (hid : id ≠ hidden) (host : HostSpec) :
    (probeConnection b id host).Respects (Twin twin) := by
  unfold probeConnection
  refine .bind (respects_probeCapabilities h hid) fun probed => ?_
  cases probed with
  | error e => exact .pure _
  | ok capabilities =>
    refine .bind (respects_track _) fun _ => ?_
    refine .bind (respects_ensure host.host host.role) fun record => ?_
    dsimp only
    split
    · exact .bind (respects_refresh h hid host.host) fun _ => .pure _
    · exact .pure _

end

end Watch

/-! ## Operations -/

namespace Site

variable {W : Type} {b : Backend W} {hidden id : ConnectionId} {twin : W → W → Prop}

theorem respects_log (entries : List LogEntry) :
    (log entries : Act Event (Site W) Unit).Respects (Twin hidden twin) :=
  .emit _

theorem respects_read {α : Type} (f : Gate → α) :
    (Act.read fun s => f s.gate : Act Event (Site W) α).Respects (Twin hidden twin) :=
  .read fun _ _ hs => congrArg f hs.gate

/-- No change of a gate takes lifetimes back. -/
theorem respects_change {f : Gate → Gate} (hf : ∀ g, g.minted ≤ (f g).minted) :
    (change f : Act Event (Site W) Unit).Respects (Twin hidden twin) :=
  .update fun s _ hs => ⟨congrArg f hs.gate, hs.world, Nat.lt_of_lt_of_le hs.begun (hf s.gate)⟩

theorem respects_watching {α : Type} {x : Act Event (Watch W) α}
    (hx : x.Respects (Watch.Twin twin)) : (watching x).Respects (Twin hidden twin) := by
  refine .within hx (fun s s' hs => ⟨congrArg Gate.tracker hs.gate, hs.world⟩) ?_
  intro s s' watch watch' hs hwatch
  refine ⟨?_, hwatch.world, hs.begun⟩
  rw [hs.gate, hwatch.tracker]

/-- Most changes are logged first. -/
theorem respects_noted {notices : Gate → List LogEntry} {f : Gate → Gate}
    (hf : ∀ g, g.minted ≤ (f g).minted) :
    (do
      let g ← Act.read Site.gate
      log (notices g)
      change f : Act Event (Site W) Unit).Respects (Twin hidden twin) := by
  refine .bind (respects_read fun g => g) fun g => ?_
  exact .bind (respects_log _) fun _ => respects_change hf

theorem respects_clearAttributes (id : ConnectionId) :
    (clearAttributes id : Act Event (Site W) Unit).Respects (Twin hidden twin) := by
  unfold clearAttributes
  exact respects_noted fun _ => Nat.le_refl _

theorem respects_setAttribute (id : ConnectionId) (owner : Option Owner) (key value : String) :
    (setAttribute id owner key value : Act Event (Site W) Unit).Respects (Twin hidden twin) := by
  unfold setAttribute
  exact respects_noted fun _ => Nat.le_refl _

theorem respects_purge : (purge : Act Event (Site W) Nat).Respects (Twin hidden twin) := by
  unfold purge
  refine .bind (respects_read fun g => g) fun g => ?_
  refine .bind (respects_log _) fun _ => ?_
  refine .bind (respects_change ?_) fun _ => .pure _
  exact fun _ => Nat.le_refl _

theorem respects_announce (hosts : List HostSpec) :
    (announce hosts : Act Event (Site W) Unit).Respects (Twin hidden twin) := by
  unfold announce
  exact respects_noted fun _ => Nat.le_refl _

theorem respects_applyTopology (hosts : List HostSpec) :
    (applyTopology hosts : Act Event (Site W) Unit).Respects (Twin hidden twin) := by
  unfold applyTopology
  exact respects_noted fun _ => Nat.le_refl _

theorem respects_release (connection : Connection) :
    (release connection : Act Event (Site W) Unit).Respects (Twin hidden twin) := by
  unfold release
  refine .bind (respects_clearAttributes connection.id) fun _ => ?_
  exact .bind respects_purge fun _ => respects_change fun _ => Nat.le_refl _

theorem respects_seed (source : Except ListingError (List HostSpec)) :
    (seed source : Act Event (Site W) _).Respects (Twin hidden twin) := by
  cases source with
  | error e => exact .pure _
  | ok hosts => exact .bind (respects_announce hosts) fun _ => .pure _

theorem respects_applyProperties (props : Properties) :
    (applyProperties props : Act Event (Site W) Unit).Respects (Twin hidden twin) := by
  have hprefer (zone : String) :
      (prefer zone : Act Event (Site W) Unit).Respects (Twin hidden twin) := by
    unfold prefer
    exact respects_noted fun _ => Nat.le_refl _
  have hmap (raw : String) :
      (replaceHostMap raw : Act Event (Site W) Unit).Respects (Twin hidden twin) := by
    unfold replaceHostMap
    refine .bind (respects_log _) fun _ => ?_
    exact .bind (respects_log _) fun _ => respects_change fun _ => Nat.le_refl _
  unfold applyProperties
  cases props.effective? Properties.preferredAz with
  | none =>
    cases props.effective? Properties.hostAzMap with
    | none => exact .pure ()
    | some raw => exact hmap raw
  | some zone =>
    cases props.effective? Properties.hostAzMap with
    | none => exact .bind (hprefer zone) fun _ => .pure ()
    | some raw => exact .bind (hprefer zone) fun _ => hmap raw

theorem respects_consumeCommand (target : Option Connection) (method : Method)
    (sql : Option String) (shape : Shape) :
    (consumeCommand target method sql shape : Act Event (Site W) _).Respects
      (Twin hidden twin) := by
  unfold consumeCommand
  split
  · exact .pure _
  · refine .bind (respects_read fun g => g.space) fun space => ?_
    refine .bind (respects_log _) fun _ => ?_
    dsimp only
    split
    · exact .pure _
    · exact .bind (respects_log _) fun _ => .pure _
    · exact .bind (respects_log _) fun _ => .pure _
    · refine .bind (respects_setAttribute _ _ _ _) fun _ => ?_
      exact .bind (respects_log _) fun _ => .pure _

/-! ### Opening connections -/

/-- A lifetime that is begun is not the hidden one. -/
theorem mint_ne {s s' : Site W} (hs : Twin hidden twin s s') : (mint s).value ≠ hidden := by
  intro heq
  have hbegun := hs.begun
  rw [← heq] at hbegun
  exact Nat.lt_irrefl s.gate.minted hbegun

theorem respects_mint : (mint : Act Event (Site W) ConnectionId).Respects (Twin hidden twin) := by
  unfold mint
  refine .bind (respects_read fun g => ConnectionId.mk g.minted) fun id => ?_
  refine .bind (respects_change ?_) fun _ => .pure _
  exact fun g => Nat.le_succ g.minted

section
variable (h : b.Hides hidden twin)
include h

theorem respects_abandon (hid : id ≠ hidden) (host : HostSpec) (source : DriverError) :
    (abandon b id host source).Respects (Twin hidden twin) := by
  unfold abandon
  refine .bind (respects_clearAttributes id) fun _ => ?_
  refine .bind (respects_watching (Watch.respects_call h hid .probe .close)) fun closed => ?_
  cases closed with
  | ok _ => exact respects_log _
  | error e => exact .bind (respects_log _) fun _ => respects_log _

/-- The connection that is handed out is not the hidden one, so its address is the same. -/
theorem respects_handOut {connection : Connection} (hid : connection.id ≠ hidden) :
    (handOut b connection).Respects (Twin hidden twin) := by
  unfold handOut
  refine .bind (respects_read fun g => g.tracker) fun t => ?_
  refine .bind (respects_log _) fun _ => ?_
  refine .bind (respects_change ?_) fun _ => ?_
  · exact fun _ => Nat.le_refl _
  · exact .bind (respects_watching (Watch.respects_url h hid)) fun _ => respects_log _

/-- A connect does the same in twin worlds, since its lifetime is a new one. -/
theorem respects_connect (protocol : String) (host : HostSpec) (props : Properties) :
    (connect b protocol host props).Respects (Twin hidden twin) := by
  unfold connect
  refine .bind (respects_applyProperties props) fun _ => ?_
  refine .bind_of respects_mint fun s s' hs => ?_
  have hid := mint_ne hs
  have hopen := Watch.respects_connect h hid protocol host props
  refine .bind (respects_watching hopen) fun opened => ?_
  cases opened with
  | error source => exact .bind (respects_clearAttributes _) fun _ => .pure _
  | ok _ =>
    refine .bind (respects_watching (Watch.respects_probeConnection h hid host)) fun probed => ?_
    cases probed with
    | error source => exact .bind (respects_abandon h hid host source) fun _ => .pure _
    | ok capabilities => exact .bind (respects_handOut h hid) fun _ => .pure _

/-! ### Calls -/

theorem respects_hostFacts {connection : Connection} (hid : connection.id ≠ hidden) :
    (hostFacts b connection).Respects (Twin hidden twin) := by
  unfold hostFacts
  refine .bind (respects_read fun g => g.tracker.record? connection.host.host) fun known => ?_
  cases known with
  | none => exact .pure _
  | some record =>
    dsimp only
    split
    · exact .pure _
    · refine .bind (respects_watching (Watch.respects_refresh h hid _)) fun refreshed => ?_
      cases refreshed <;> exact .pure _

theorem respects_enforce {connection : Connection} (hid : connection.id ≠ hidden)
    (method : Method) (sql : Option String) :
    (enforce b connection method sql).Respects (Twin hidden twin) := by
  unfold enforce
  refine .bind (respects_read fun g => g.isStrict connection.id) fun strict => ?_
  split
  · exact .pure _
  · refine .bind (respects_hostFacts h hid) fun facts => ?_
    exact .bind (respects_log _) fun _ => .pure _

theorem respects_enforceOn {target : Option Connection}
    (htarget : ∀ connection ∈ target, connection.id ≠ hidden) (method : Method)
    (sql : Option String) : (enforceOn b target method sql).Respects (Twin hidden twin) := by
  cases target with
  | none => exact .pure _
  | some connection =>
    unfold enforceOn
    dsimp only
    split
    · exact respects_enforce h (htarget connection rfl) method sql
    · exact .pure _

section
variable {target : Option Connection} (htarget : ∀ connection ∈ target, connection.id ≠ hidden)
  (hid : id ≠ hidden) (request : Request)
include htarget hid

theorem respects_proceed : (proceed b target id request).Respects (Twin hidden twin) := by
  unfold proceed
  refine .bind (respects_enforceOn h htarget request.method request.sql?) fun checked => ?_
  cases checked with
  | error violation => exact .pure _
  | ok _ =>
    refine .bind (respects_watching (Watch.respects_call h hid .caller request)) fun result => ?_
    dsimp only
    split
    · cases target with
      | none => exact .pure _
      | some connection => exact .bind (respects_clearAttributes _) fun _ => .pure _
    · exact .pure _

/-- A call on a connection that is not hidden does the same in twin worlds. -/
theorem respects_callFor : (callFor b target id request).Respects (Twin hidden twin) := by
  have hcall : (watching (Watch.call b .caller id request)).Respects (Twin hidden twin) :=
    respects_watching (Watch.respects_call h hid .caller request)
  unfold callFor intercept
  -- A call without a connection is logged as such, and goes through the same stages.
  refine .ite (.bind (respects_log _) fun _ => ?_) _ ?_
  all_goals
    refine .ite (.bind hcall fun _ => .pure _) _ ?_
    refine .bind (respects_consumeCommand target _ _ _) fun consumed => ?_
    cases consumed with
    | some acknowledgement => exact .pure _
    | none => exact respects_proceed h htarget hid request

end

end

end Site

end ClusterGate
