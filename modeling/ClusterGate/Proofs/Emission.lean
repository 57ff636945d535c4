import ClusterGate.Proofs.Interception
import ClusterGate.Proofs.Opening
import ClusterGate.Proofs.Probing

/-!
# What the library does on its own account

Opening a connection and checking a statement ask the server a few fixed questions, and a connection
that cannot be probed is closed again. Nothing else that these actions do reaches a driver: a call
that a caller asked for is made by the stages of that call alone.
-/

namespace ClusterGate

/-! ## Events of an action -/

/-- Whatever the state, every event of the action has the property. -/
def Act.Emits {ε σ α : Type} (P : ε → Prop) (x : Act ε σ α) : Prop := ∀ s, ∀ e ∈ (x s).events, P e

namespace Act.Emits

variable {ε σ τ α β : Type} {P : ε → Prop}

theorem pure (a : α) : Emits P (Pure.pure a : Act ε σ α) := fun _ _ he => by cases he

theorem read (f : σ → α) : Emits P (Act.read f : Act ε σ α) := fun _ _ he => by cases he

theorem update (f : σ → σ) : Emits P (Act.update f : Act ε σ Unit) := fun _ _ he => by cases he

theorem emit {events : List ε} (h : ∀ e ∈ events, P e) :
    Emits P (Act.emit events : Act ε σ Unit) :=
  fun _ => h

theorem bind {x : Act ε σ α} (hx : Emits P x) {f : α → Act ε σ β} (hf : ∀ a, Emits P (f a)) :
    Emits P (x >>= f) := by
  intro s e he
  rcases List.mem_append.mp he with he | he
  · exact hx s e he
  · exact hf _ _ e he

theorem ite {x y : Act ε σ α} (hx : Emits P x) (c : Prop) [Decidable c] (hy : Emits P y) :
    Emits P (if c then x else y) := by
  split
  · exact hx
  · exact hy

theorem within {part : τ → σ} {put : σ → τ → τ} {x : Act ε σ α} (hx : Emits P x) :
    Emits P (Act.within part put x) :=
  fun t => hx (part t)

end Act.Emits

/-! ## Probes -/

/-- What the library asks of a driver on its own account. -/
def probeRequests : List Request :=
  [.executeQuery versionQuery, .executeQuery markerQuery, .executeQuery forwardingQuery, .close]

/-- If the event is a driver call, the library makes it on its own account. -/
def Event.IsProbe : Event → Prop
  | .called _ origin request => origin = .probe ∧ request ∈ probeRequests
  | _ => True

theorem Event.isProbe_of_mem_logged {entries : List LogEntry} {e : Event}
    (h : e ∈ entries.map .logged) : e.IsProbe := by
  obtain ⟨entry, -, rfl⟩ := List.mem_map.mp h
  trivial

/-- An event that is no probe is one in which the driver takes part. -/
theorem Event.isProbe_or_mem_contacts {events : List Event} {e : Event} (h : e ∈ events) :
    e.IsProbe ∨ e ∈ contacts events := by
  cases e with
  | logged entry => exact .inl trivial
  | _ => exact .inr (List.mem_filter.mpr ⟨h, rfl⟩)

namespace Watch

variable {W : Type} (b : Backend W) (id : ConnectionId)

theorem probes_log (entries : List LogEntry) :
    (log entries : Act Event (Watch W) Unit).Emits Event.IsProbe :=
  .emit fun _ => Event.isProbe_of_mem_logged

theorem probes_call {request : Request} (h : request ∈ probeRequests) :
    (call b .probe id request).Emits Event.IsProbe := by
  intro s e he
  rcases List.mem_cons.mp he with rfl | he
  · exact ⟨rfl, h⟩
  · exact Event.isProbe_of_mem_logged he

theorem probes_connect (protocol : String) (host : HostSpec) (props : Properties) :
    (connect b id protocol host props).Emits Event.IsProbe := by
  intro s e he
  rcases List.mem_cons.mp he with rfl | he
  · trivial
  · exact Event.isProbe_of_mem_logged he

theorem probes_probeMarker : (probeMarker b id).Emits Event.IsProbe := by
  unfold probeMarker
  refine .bind (probes_call b id (by simp [probeRequests])) fun answer => ?_
  cases answer with
  | ok result => exact .pure _
  | error e => exact .bind (probes_log _) fun _ => .pure _

theorem probes_probeForwarding : (probeForwarding b id).Emits Event.IsProbe := by
  unfold probeForwarding
  refine .bind (probes_call b id (by simp [probeRequests])) fun answer => ?_
  cases answer with
  | ok result => exact .pure _
  | error e => exact .bind (.read _) fun _ => .bind (probes_log _) fun _ => .pure _

theorem probes_capabilitiesOf (line : String) : (capabilitiesOf b id line).Emits Event.IsProbe := by
  have hrest (cluster : Bool) : (do
      let capabilities := Capabilities.ofVersion (ServerVersion.ofLine line) cluster
      log [capabilities.notice]
      return capabilities : Act Event (Watch W) Capabilities).Emits Event.IsProbe :=
    .bind (probes_log _) fun _ => .pure _
  unfold capabilitiesOf
  refine .bind (probes_log _) fun _ => ?_
  exact .ite (.bind (probes_probeMarker b id) hrest) _ (.bind (.pure false) hrest)

theorem probes_probeCapabilities : (probeCapabilities b id).Emits Event.IsProbe := by
  unfold probeCapabilities
  refine .bind (probes_call b id (by simp [probeRequests])) fun answer => ?_
  cases answer with
  | error e => exact .pure _
  | ok result =>
    dsimp only
    cases result.firstValue? with
    | none => exact .bind (.read _) fun _ => .bind (probes_log _) fun _ => .pure _
    | some line => exact .bind (probes_capabilitiesOf b id line) fun _ => .pure _

theorem probes_refresh (host : String) : (refresh b id host).Emits Event.IsProbe := by
  have hsettle (enabled : Bool) : (settle b host enabled).Emits Event.IsProbe := by
    unfold settle
    refine .bind (.read _) fun time => .bind (.read _) fun t => .bind (probes_log _) fun _ => ?_
    exact .bind (.update _) fun _ => .read _
  unfold refresh
  refine .bind (.read _) fun t => ?_
  cases t.record? host with
  | none => exact .pure _
  | some snapshot =>
    refine .bind (.read _) fun time => ?_
    exact .ite (.bind (probes_probeForwarding b id) hsettle) _ (.pure _)

theorem probes_probeConnection (host : HostSpec) :
    (probeConnection b id host).Emits Event.IsProbe := by
  have hensure : (ensure host.host host.role : Act Event (Watch W) HostRecord).Emits
      Event.IsProbe := by
    unfold ensure
    refine .bind (.read _) fun t => .bind (probes_log _) fun _ => ?_
    exact .bind (.update _) fun _ => .pure _
  unfold probeConnection
  refine .bind (probes_probeCapabilities b id) fun probed => ?_
  cases probed with
  | error e => exact .pure _
  | ok capabilities =>
    refine .bind (.update _) fun _ => .bind hensure fun record => ?_
    exact .ite (.bind (probes_refresh b id host.host) fun _ => .pure _) _ (.pure _)

end Watch

/-! ## Opening and checking -/

namespace Site

variable {W : Type} (b : Backend W)

theorem probes_log (entries : List LogEntry) :
    (log entries : Act Event (Site W) Unit).Emits Event.IsProbe :=
  .emit fun _ => Event.isProbe_of_mem_logged

/-- Most changes are logged first. -/
theorem probes_noted {notices : Gate → List LogEntry} {f : Gate → Gate} :
    (do
      let g ← Act.read Site.gate
      log (notices g)
      change f : Act Event (Site W) Unit).Emits Event.IsProbe :=
  .bind (.read _) fun _ => .bind (probes_log _) fun _ => .update _

theorem probes_clearAttributes (id : ConnectionId) :
    (clearAttributes id : Act Event (Site W) Unit).Emits Event.IsProbe :=
  probes_noted

theorem probes_seed (source : Except ListingError (List HostSpec)) :
    (seed source : Act Event (Site W) _).Emits Event.IsProbe := by
  cases source with
  | error e => exact .pure _
  | ok hosts => exact .bind probes_noted fun _ => .pure _

theorem probes_release (connection : Connection) :
    (release connection : Act Event (Site W) Unit).Emits Event.IsProbe := by
  have hpurge : (purge : Act Event (Site W) Nat).Emits Event.IsProbe :=
    .bind (.read _) fun _ => .bind (probes_log _) fun _ => .bind (.update _) fun _ => .pure _
  unfold release
  exact .bind (probes_clearAttributes connection.id) fun _ => .bind hpurge fun _ => .update _

theorem probes_applyProperties (props : Properties) :
    (applyProperties props : Act Event (Site W) Unit).Emits Event.IsProbe := by
  have hprefer (zone : String) : (prefer zone : Act Event (Site W) Unit).Emits Event.IsProbe :=
    probes_noted
  have hmap (raw : String) : (replaceHostMap raw : Act Event (Site W) Unit).Emits Event.IsProbe :=
    .bind (probes_log _) fun _ => .bind (probes_log _) fun _ => .update _
  unfold applyProperties
  cases props.effective? Properties.preferredAz with
  | none =>
    cases props.effective? Properties.hostAzMap with
    | none => exact .pure ()
    | some raw => exact hmap raw
  | some zone =>
    cases props.effective? Properties.hostAzMap with
    | none => exact .bind (hprefer zone) fun _ => .pure ()
    | some raw => exact .bind (hprefer zone) fun _ => hmap raw

theorem probes_connect (protocol : String) (host : HostSpec) (props : Properties) :
    (connect b protocol host props).Emits Event.IsProbe := by
  have hmint : (mint : Act Event (Site W) ConnectionId).Emits Event.IsProbe :=
    .bind (.read _) fun _ => .bind (.update _) fun _ => .pure _
  unfold connect
  refine .bind (probes_applyProperties props) fun _ => .bind hmint fun id => ?_
  refine .bind (.within (Watch.probes_connect b id protocol host props)) fun opened => ?_
  cases opened with
  | error source => exact .bind (probes_clearAttributes id) fun _ => .pure _
  | ok _ =>
    refine .bind (.within (Watch.probes_probeConnection b id host)) fun probed => ?_
    cases probed with
    | error source =>
      have hclose : (Watch.call b .probe id .close).Emits Event.IsProbe :=
        Watch.probes_call b id (by simp [probeRequests])
      refine .bind (.bind (probes_clearAttributes id) fun _ => ?_) fun _ => .pure _
      refine .bind (.within hclose) fun closed => ?_
      cases closed with
      | ok _ => exact probes_log _
      | error e => exact .bind (probes_log _) fun _ => probes_log _
    | ok capabilities =>
      refine .bind ?_ fun _ => .pure _
      unfold handOut
      refine .bind (.read _) fun t => .bind (probes_log _) fun _ => .bind (.update _) fun _ => ?_
      exact .bind (.within (.read _)) fun _ => probes_log _

/-- Checking a statement brings in no driver call of the caller. -/
theorem probes_enforce (connection : Connection) (method : Method) (sql : Option String) :
    (enforce b connection method sql).Emits Event.IsProbe := by
  have hfacts : (hostFacts b connection).Emits Event.IsProbe := by
    unfold hostFacts
    refine .bind (.read _) fun known => ?_
    cases known with
    | none => exact .pure _
    | some record =>
      refine .ite (.pure _) _ ?_
      refine .bind (.within (Watch.probes_refresh b connection.id _)) fun refreshed => ?_
      cases refreshed <;> exact .pure _
  unfold enforce
  refine .bind (.read _) fun strict => .ite (.pure _) _ ?_
  exact .bind hfacts fun facts => .bind (probes_log _) fun _ => .pure _

end Site

end ClusterGate
