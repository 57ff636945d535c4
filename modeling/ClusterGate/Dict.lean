/-!
# Dictionaries

A dictionary holds at most one value for a key and lists its entries by increasing key, so that two
dictionaries built by different routes from the same entries are the same.

Every law below speaks about look-up (`get?`); that the entries stay in order is `WellOrdered`.
-/

namespace ClusterGate

/-- A finite map, kept in the order of its keys. -/
structure Dict (κ α : Type) where
  entries : List (κ × α)
  deriving DecidableEq, Repr

namespace Dict

variable {κ α β : Type}

def empty : Dict κ α := ⟨[]⟩

instance : EmptyCollection (Dict κ α) := ⟨empty⟩

instance : Inhabited (Dict κ α) := ⟨empty⟩

def size (d : Dict κ α) : Nat := d.entries.length

def isEmpty (d : Dict κ α) : Bool := d.entries.isEmpty

def keys (d : Dict κ α) : List κ := d.entries.map (·.1)

def values (d : Dict κ α) : List α := d.entries.map (·.2)

def filter (p : κ → α → Bool) (d : Dict κ α) : Dict κ α := ⟨d.entries.filter fun e => p e.1 e.2⟩

def map (f : κ → α → β) (d : Dict κ α) : Dict κ β := ⟨d.entries.map fun e => (e.1, f e.1 e.2)⟩

section
variable [DecidableEq κ]

def get? (d : Dict κ α) (k : κ) : Option α := d.entries.lookup k

def contains (d : Dict κ α) (k : κ) : Bool := (d.get? k).isSome

def erase (d : Dict κ α) (k : κ) : Dict κ α := d.filter fun k' _ => k' != k

end

section
variable [DecidableEq κ] [LT κ] [DecidableLT κ]

/-- Put an entry in its place, instead of an entry with the same key. -/
def insertEntry (k : κ) (v : α) : List (κ × α) → List (κ × α)
  | [] => [(k, v)]
  | e :: r =>
    if k = e.1 then (k, v) :: r
    else if k < e.1 then (k, v) :: e :: r
    else e :: insertEntry k v r

def insert (d : Dict κ α) (k : κ) (v : α) : Dict κ α := ⟨insertEntry k v d.entries⟩

/-- The entries put in one after the other, so that the last one of a key stays. -/
def ofList (l : List (κ × α)) : Dict κ α := l.foldl (fun d e => d.insert e.1 e.2) ∅

end

/-- The keys increase strictly from entry to entry. -/
def WellOrdered [LT κ] (d : Dict κ α) : Prop := d.keys.Pairwise (· < ·)

/-! ### Look-up -/

section
variable [DecidableEq κ]

@[simp] theorem get?_empty (k : κ) : (∅ : Dict κ α).get? k = none := rfl

theorem get?_map (f : κ → α → β) (d : Dict κ α) (k : κ) :
    (d.map f).get? k = (d.get? k).map (f k) := by
  obtain ⟨l⟩ := d
  simp only [get?, map]
  induction l with
  | nil => rfl
  | cons e r ih =>
    obtain ⟨k', v⟩ := e
    by_cases h : k = k'
    · subst h; simp
    · simpa [List.lookup_cons, beq_false_of_ne h] using ih

@[simp] theorem get?_erase (d : Dict κ α) (k k' : κ) :
    (d.erase k).get? k' = if k' = k then none else d.get? k' := by
  obtain ⟨l⟩ := d
  simp only [get?, erase, filter]
  induction l with
  | nil => simp
  | cons e r ih =>
    obtain ⟨a, v⟩ := e
    by_cases ha : a = k
    · subst ha
      simp only [List.filter_cons, bne_self_eq_false, Bool.false_eq_true, if_false, ih]
      split
      · rfl
      · rename_i h; simp [List.lookup_cons, beq_false_of_ne h]
    · simp only [List.filter_cons, bne_iff_ne.mpr ha, if_true, List.lookup_cons]
      by_cases hk : k' = a
      · subst hk; simp [ha]
      · simp [beq_false_of_ne hk, ih]

end

section
variable [DecidableEq κ] [LT κ] [DecidableLT κ]

@[simp] theorem get?_insert (d : Dict κ α) (k k' : κ) (v : α) :
    (d.insert k v).get? k' = if k' = k then some v else d.get? k' := by
  obtain ⟨l⟩ := d
  simp only [get?, insert]
  induction l with
  | nil => by_cases h : k' = k <;> simp [insertEntry, List.lookup_cons, h, beq_false_of_ne]
  | cons e r ih =>
    obtain ⟨a, w⟩ := e
    rw [insertEntry]
    split
    · rename_i h
      simp only at h
      subst h
      by_cases hk : k' = k <;> simp [List.lookup_cons, hk, beq_false_of_ne]
    · rename_i h
      split
      · by_cases hk : k' = k <;> simp [List.lookup_cons, hk, beq_false_of_ne]
      · by_cases hk : k' = a
        · subst hk
          have : k' ≠ k := fun e => h e.symm
          simp [this]
        · simpa [List.lookup_cons, beq_false_of_ne hk] using ih

end

end Dict

end ClusterGate
