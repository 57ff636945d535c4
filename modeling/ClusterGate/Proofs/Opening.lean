import ClusterGate.Gate.Connect
import ClusterGate.Proofs.Frame

/-!
# What opening a connection does

A connect takes over zone properties and begins a lifetime (`readied`), asks the driver to open the
connection (`opening`) and probes it (`probing`). It ends in one of three ways: the driver refused,
the version query failed and the connection is closed again, or the connection is handed out.
-/

namespace ClusterGate.Site

variable {W : Type} (b : Backend W)

theorem confined_applyProperties (props : Properties) :
    Confined (applyProperties props : Act Event (Site W) Unit) := by
  have hprefer (zone : String) : Confined (prefer zone : Act Event (Site W) Unit) :=
    .bind (.read _) fun _ => .bind (.log _) fun _ => .track (·.prefer zone)
  have hmap (raw : String) : Confined (replaceHostMap raw : Act Event (Site W) Unit) :=
    .bind (.log _) fun _ => .bind (.log _) fun _ =>
      .track fun t => (t.replaceHostMap (ZoneMap.parse raw)).reresolve
  unfold applyProperties
  cases props.effective? Properties.preferredAz with
  | none =>
    cases props.effective? Properties.hostAzMap with
    | none => exact .pure ()
    | some raw => exact hmap raw
  | some zone =>
    cases props.effective? Properties.hostAzMap with
    | none => exact .bind (hprefer zone) fun _ => .pure ()
    | some raw => exact .bind (hprefer zone) fun _ => hmap raw

theorem applyProperties_world (props : Properties) (s : Site W) :
    (applyProperties props s).state.world = s.world := by
  cases hzone : props.effective? Properties.preferredAz <;>
    cases hmap : props.effective? Properties.hostAzMap <;>
      simp [applyProperties, prefer, replaceHostMap, hzone, hmap]

/-- It makes no difference to the site whether closing succeeds. -/
theorem abandon_state (id : ConnectionId) (host : HostSpec) (source : DriverError) (s : Site W) :
    let closed := Watch.call b .probe id .close s.watch
    (abandon b id host source s).state = (clearAttributes id (s.resume closed.state)).state := by
  cases hclose : (Watch.call b .probe id .close ⟨s.gate.tracker, s.world⟩).value <;>
    simp [abandon, watch, resume, hclose]

section
variable (protocol : String) (host : HostSpec) (props : Properties) (s : Site W)

/-- The site when the driver is asked to open a connection. -/
def readied : Site W := ((do applyProperties props; mint) s).state

def opening : Step Event (Watch W) (Except DriverError Unit) :=
  Watch.connect b ⟨s.gate.minted⟩ protocol host props (readied props s).watch

def probing : Step Event (Watch W) (Except DriverError Capabilities) :=
  Watch.probeConnection b ⟨s.gate.minted⟩ host (opening b protocol host props s).state

/-- Before the driver is asked, a connect has taken over its properties and begun a lifetime. -/
theorem readied_eq :
    readied props s =
      ⟨{ (applyProperties props s).state.gate with minted := s.gate.minted + 1 },
        (applyProperties props s).state.world⟩ := by
  simp [readied, mint, ((confined_applyProperties props).alike s).minted]

variable {b protocol host props s}
variable {source : DriverError} {capabilities : Capabilities}

/-- The driver does not open the connection. -/
theorem connect_refused (hopen : (opening b protocol host props s).value = .error source) :
    let ended := connect b protocol host props s
    ended.value = .error (.connectFailed host.host source) ∧
      ended.state =
        (clearAttributes ⟨s.gate.minted⟩
          ((readied props s).resume (opening b protocol host props s).state)).state := by
  have hid := ((confined_applyProperties props).alike s).minted
  rw [opening, readied_eq] at hopen
  simp [connect, mint, opening, readied_eq, hid, hopen]

/-- The connection is opened, but its version query fails: it is closed again. -/
theorem connect_abandoned (hopen : (opening b protocol host props s).value = .ok ())
    (hprobe : (probing b protocol host props s).value = .error source) :
    let closed := Watch.call b .probe ⟨s.gate.minted⟩ .close (probing b protocol host props s).state
    let ended := connect b protocol host props s
    ended.value = .error (.connectFailed host.host source) ∧
      ended.state =
        (clearAttributes ⟨s.gate.minted⟩ ((readied props s).resume closed.state)).state := by
  have hid := ((confined_applyProperties props).alike s).minted
  rw [opening, readied_eq] at hopen
  rw [probing, opening, readied_eq] at hprobe
  simp [connect, mint, probing, opening, readied_eq, abandon_state, hid, hopen, hprobe]

/-- The connection is opened and probed, and handed out. -/
theorem connect_handedOut (hopen : (opening b protocol host props s).value = .ok ())
    (hprobe : (probing b protocol host props s).value = .ok capabilities) :
    let connection : Connection := ⟨⟨s.gate.minted⟩, host, capabilities⟩
    let probed := (readied props s).resume (probing b protocol host props s).state
    let ended := connect b protocol host props s
    ended.value = .ok connection ∧ ended.state = (handOut b connection probed).state := by
  have hid := ((confined_applyProperties props).alike s).minted
  rw [opening, readied_eq] at hopen
  rw [probing, opening, readied_eq] at hprobe
  simp [connect, mint, probing, opening, readied_eq, hid, hopen, hprobe]

@[simp] theorem handOut_state (connection : Connection) (s : Site W) :
    (handOut b connection s).state =
      { s with gate := { s.gate with handles := s.gate.handles ++ [connection] } } := rfl

/-- Opening a connection begins a lifetime. It either fails, which clears the session of that
lifetime, or adds a handle. -/
theorem connect_gate (b : Backend W) (protocol : String) (host : HostSpec) (props : Properties)
    (s : Site W) :
    let ended := connect b protocol host props s
    let id : ConnectionId := ⟨s.gate.minted⟩
    ended.state.gate.space = s.gate.space ∧ ended.state.gate.minted = s.gate.minted + 1 ∧
      ((∃ e, ended.value = .error e ∧ ended.state.gate.handles = s.gate.handles ∧
          ended.state.gate.sessions = s.gate.sessions.clear id) ∨
        ∃ capabilities, ended.value = .ok ⟨id, host, capabilities⟩ ∧
          ended.state.gate.handles = s.gate.handles ++ [⟨id, host, capabilities⟩] ∧
          ended.state.gate.sessions = s.gate.sessions) := by
  have hconfined : Confined (applyProperties props : Act Event (Site W) Unit) :=
    confined_applyProperties props
  have halike := hconfined.alike s
  have hsessions := hconfined.sessions s
  -- Only the last of the three endings hands out a handle.
  cases hopen : (opening b protocol host props s).value with
  | error source =>
    obtain ⟨hvalue, hstate⟩ := connect_refused hopen
    simp only [hvalue, hstate, clearAttributes_state, resume, readied_eq, true_and]
    exact ⟨halike.space, .inl ⟨_, rfl, halike.handles, by rw [hsessions]⟩⟩
  | ok _ =>
    cases hprobe : (probing b protocol host props s).value with
    | error source =>
      obtain ⟨hvalue, hstate⟩ := connect_abandoned hopen hprobe
      simp only [hvalue, hstate, clearAttributes_state, resume, readied_eq, true_and]
      exact ⟨halike.space, .inl ⟨_, rfl, halike.handles, by rw [hsessions]⟩⟩
    | ok capabilities =>
      obtain ⟨hvalue, hstate⟩ := connect_handedOut hopen hprobe
      simp only [hvalue, hstate, handOut_state, resume, readied_eq, true_and]
      exact ⟨halike.space, .inr ⟨_, rfl, by rw [halike.handles], hsessions⟩⟩

end

end ClusterGate.Site
