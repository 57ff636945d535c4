/-!
# Actions

An action changes a state, emits events in order and returns a value. Nothing else happens in it, so
three equations say all about a sequence of two actions: its value, its final state and its events.
-/

namespace ClusterGate

/-- The outcome of an action. -/
structure Step (ε σ α : Type) where
  value : α
  state : σ
  events : List ε

/-- An action with events `ε` on a state `σ`. -/
def Act (ε σ α : Type) : Type := σ → Step ε σ α

namespace Act

variable {ε σ τ α β : Type}

instance : Monad (Act ε σ) where
  pure a := fun s => ⟨a, s, []⟩
  bind x f := fun s =>
    let first := x s
    let second := f first.value first.state
    ⟨second.value, second.state, first.events ++ second.events⟩

def state : Act ε σ σ := fun s => ⟨s, s, []⟩

def read (f : σ → α) : Act ε σ α := fun s => ⟨f s, s, []⟩

def update (f : σ → σ) : Act ε σ Unit := fun s => ⟨(), f s, []⟩

def emit (events : List ε) : Act ε σ Unit := fun s => ⟨(), s, events⟩

/-- Act on a part of the state. -/
def within (part : τ → σ) (put : σ → τ → τ) (x : Act ε σ α) : Act ε τ α := fun t =>
  let inner := x (part t)
  ⟨inner.value, put inner.state t, inner.events⟩

/-! ### The equations -/

section
variable (s : σ) (t : τ) (x : Act ε σ α) (f : α → Act ε σ β)

@[simp] theorem pure_value (a : α) : (pure a : Act ε σ α) s = ⟨a, s, []⟩ := rfl

@[simp] theorem bind_value : ((x >>= f) s).value = (f (x s).value (x s).state).value := rfl

@[simp] theorem bind_state : ((x >>= f) s).state = (f (x s).value (x s).state).state := rfl

@[simp] theorem bind_events :
    ((x >>= f) s).events = (x s).events ++ (f (x s).value (x s).state).events := rfl

@[simp] theorem map_apply (g : α → β) :
    (g <$> x) s = ⟨g (x s).value, (x s).state, (x s).events⟩ := by
  simp only [Functor.map, Function.comp, List.append_nil]

@[simp] theorem state_apply : (state : Act ε σ σ) s = ⟨s, s, []⟩ := rfl

@[simp] theorem read_apply (g : σ → α) : (read g : Act ε σ α) s = ⟨g s, s, []⟩ := rfl

@[simp] theorem update_apply (g : σ → σ) : (update g : Act ε σ Unit) s = ⟨(), g s, []⟩ := rfl

@[simp] theorem emit_apply (events : List ε) :
    (emit events : Act ε σ Unit) s = ⟨(), s, events⟩ := rfl

variable (part : τ → σ) (put : σ → τ → τ)

@[simp] theorem within_value : (within part put x t).value = (x (part t)).value := rfl

@[simp] theorem within_state : (within part put x t).state = put (x (part t)).state t := rfl

@[simp] theorem within_events : (within part put x t).events = (x (part t)).events := rfl

end

instance : LawfulMonad (Act ε σ) :=
  LawfulMonad.mk' (Act ε σ)
    (fun x => by funext s; simp [Functor.map, Function.comp])
    (fun _ _ => by funext s; simp [bind])
    (fun _ _ _ => by funext s; simp [bind, List.append_assoc])

end Act

end ClusterGate
