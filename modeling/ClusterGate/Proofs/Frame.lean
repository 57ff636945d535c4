import ClusterGate.Gate.Basic

/-!
# What actions leave alone

Most actions on a site touch little of it. Work on the host table leaves everything else of the gate
as it was (`Site.Confined`), and this property is closed under sequencing, so it is read off the way
an action is put together. Log entries are left out of account: what counts among the events of an
action are those in which the driver takes part (`Event.contacts`).
-/

namespace ClusterGate

/-! ## Events that reach the driver -/

/-- The event is more than a log entry: the driver takes part in it. -/
def Event.isContact : Event → Bool
  | .logged _ => false
  | _ => true

def Event.contacts (events : List Event) : List Event := events.filter Event.isContact

namespace Event

@[simp] theorem contacts_nil : contacts [] = [] := rfl

@[simp] theorem contacts_append (l r : List Event) :
    contacts (l ++ r) = contacts l ++ contacts r :=
  List.filter_append l r

@[simp] theorem contacts_map_logged (entries : List LogEntry) :
    contacts (entries.map .logged) = [] := by
  simp [contacts, isContact]

@[simp] theorem contacts_logged_cons (entry : LogEntry) (rest : List Event) :
    contacts (.logged entry :: rest) = contacts rest := rfl

@[simp] theorem contacts_opened_cons (id : ConnectionId) (protocol : String) (host : HostSpec)
    (rest : List Event) :
    contacts (.opened id protocol host :: rest) = .opened id protocol host :: contacts rest := rfl

@[simp] theorem contacts_called_cons (id : ConnectionId) (origin : Origin) (request : Request)
    (rest : List Event) :
    contacts (.called id origin request :: rest) = .called id origin request :: contacts rest := rfl

theorem called_mem_contacts {events : List Event} {id : ConnectionId} {origin : Origin}
    {request : Request} :
    .called id origin request ∈ contacts events ↔ .called id origin request ∈ events := by
  simp [contacts, isContact]

end Event

/-! ## Steps that leave parts of a site alone -/

namespace Site

variable {W : Type} (b : Backend W)

@[simp] theorem log_apply (entries : List LogEntry) (s : Site W) :
    log entries s = ⟨(), s, entries.map .logged⟩ := rfl

@[simp] theorem change_apply (f : Gate → Gate) (s : Site W) :
    change f s = ⟨(), { s with gate := f s.gate }, []⟩ := rfl

@[simp] theorem clearAttributes_state (id : ConnectionId) (s : Site W) :
    (clearAttributes id s).state =
      { s with gate := { s.gate with sessions := s.gate.sessions.clear id } } := rfl

/-- The host table and the world, as work on the table sees them. -/
def watch (s : Site W) : Watch W := ⟨s.gate.tracker, s.world⟩

/-- The site when work on the host table is done. -/
def resume (s : Site W) (watch : Watch W) : Site W :=
  ⟨{ s.gate with tracker := watch.tracker }, watch.world⟩

@[simp] theorem watch_resume (s : Site W) (watch : Watch W) : (s.resume watch).watch = watch := rfl

@[simp] theorem resume_watch (s : Site W) : s.resume s.watch = s := rfl

@[simp] theorem resume_resume (s : Site W) (first second : Watch W) :
    (s.resume first).resume second = s.resume second := rfl

@[simp] theorem watching_value {α : Type} (x : Act Event (Watch W) α) (s : Site W) :
    (watching x s).value = (x s.watch).value := rfl

@[simp] theorem watching_state {α : Type} (x : Act Event (Watch W) α) (s : Site W) :
    (watching x s).state = s.resume (x s.watch).state := rfl

@[simp] theorem watching_events {α : Type} (x : Act Event (Watch W) α) (s : Site W) :
    (watching x s).events = (x s.watch).events := rfl

end Site

/-- The gates differ at most in what is known about hosts and in the session store. -/
structure Gate.Alike (g g' : Gate) : Prop where
  config : g'.config = g.config
  space : g'.space = g.space
  handles : g'.handles = g.handles
  minted : g'.minted = g.minted

/-- The action changes nothing of the gate but the host table. -/
def Site.Confined {W α : Type} (x : Act Event (Site W) α) : Prop :=
  ∀ s, (x s).state.gate = { s.gate with tracker := (x s).state.gate.tracker }

namespace Site.Confined

variable {W α β : Type} {x : Act Event (Site W) α}

/-- What is confined to the table leaves the rest of the gate as it was. -/
theorem alike (hx : Confined x) (s : Site W) : s.gate.Alike (x s).state.gate := by
  rw [hx s]
  exact ⟨rfl, rfl, rfl, rfl⟩

theorem sessions (hx : Confined x) (s : Site W) : (x s).state.gate.sessions = s.gate.sessions := by
  rw [hx s]

theorem pure (a : α) : Confined (Pure.pure a : Act Event (Site W) α) := fun _ => rfl

theorem read (f : Site W → α) : Confined (Act.read f) := fun _ => rfl

theorem log (entries : List LogEntry) : Confined (Site.log entries : Act Event (Site W) Unit) :=
  fun _ => rfl

theorem watching (y : Act Event (Watch W) α) : Confined (Site.watching y) := fun _ => rfl

theorem track (f : Tracker → Tracker) :
    Confined (Site.change fun g => { g with tracker := f g.tracker } : Act Event (Site W) Unit) :=
  fun _ => rfl

theorem bind (hx : Confined x) {f : α → Act Event (Site W) β} (hf : ∀ a, Confined (f a)) :
    Confined (x >>= f) := by
  intro s
  -- The second action starts from a gate that differs from the first one in its table only.
  have hlast := hf (x s).value (x s).state
  rw [hx s] at hlast
  exact hlast

end Site.Confined

end ClusterGate
