import ClusterGate.Dict

/-!
# Laws of dictionaries

A dictionary whose keys increase strictly has one entry for each of its keys, so that being an entry
and being found by look-up are the same. Every operation keeps the order, and a dictionary built
from a list of entries holds the last entry of each key. One dictionary updated by another holds the
entries of the other one, and its own for the other keys.
-/

namespace ClusterGate.Dict

variable {κ α β : Type}

/-! ## Entries and look-up -/

section
variable [DecidableEq κ]

theorem mem_keys_iff {d : Dict κ α} {k : κ} : k ∈ d.keys ↔ (d.get? k).isSome = true := by
  constructor
  · intro h
    obtain ⟨e, he, rfl⟩ := List.mem_map.mp h
    rw [Option.isSome_iff_ne_none]
    intro hnone
    exact bne_iff_ne.mp (List.lookup_eq_none_iff.mp hnone e he) rfl
  · intro h
    obtain ⟨v, hv⟩ := Option.isSome_iff_exists.mp h
    obtain ⟨before, after, hd, -⟩ := List.lookup_eq_some_iff.mp hv
    simp [keys, hd]

theorem mem_entries_of_get? {d : Dict κ α} {k : κ} {v : α} (h : d.get? k = some v) :
    (k, v) ∈ d.entries := by
  obtain ⟨before, after, hd, -⟩ := List.lookup_eq_some_iff.mp h
  simp [hd]

/-- With distinct keys every entry is found by its key. -/
theorem get?_of_mem_entries {d : Dict κ α} (hd : d.keys.Nodup) {k : κ} {v : α}
    (h : (k, v) ∈ d.entries) : d.get? k = some v := by
  obtain ⟨before, after, hsplit⟩ := List.append_of_mem h
  refine List.lookup_eq_some_iff.mpr ⟨before, after, hsplit, fun e he => ?_⟩
  have hne : e.1 ≠ k := by
    rw [keys, hsplit, List.map_append, List.map_cons, List.nodup_append] at hd
    exact hd.2.2 e.1 (List.mem_map_of_mem he) k List.mem_cons_self
  exact bne_iff_ne.mpr hne.symm

/-- Where no key stands twice, the entries are what looking up finds. -/
theorem mem_entries_iff {d : Dict κ α} (hd : d.keys.Nodup) {k : κ} {v : α} :
    (k, v) ∈ d.entries ↔ d.get? k = some v :=
  ⟨get?_of_mem_entries hd, mem_entries_of_get?⟩

theorem mem_values_iff {d : Dict κ α} (hd : d.keys.Nodup) {v : α} :
    v ∈ d.values ↔ ∃ k, d.get? k = some v := by
  simp only [values, List.mem_map, Prod.exists, mem_entries_iff hd, exists_eq_right]

theorem get?_filter_iff {d : Dict κ α} (hd : d.keys.Nodup) (p : κ → α → Bool) {k : κ} {v : α} :
    (d.filter p).get? k = some v ↔ d.get? k = some v ∧ p k v = true := by
  have hkept : (d.filter p).keys.Nodup := List.Pairwise.sublist (List.filter_sublist.map _) hd
  rw [← mem_entries_iff hkept, ← mem_entries_iff hd]
  exact List.mem_filter

end

theorem filter_eq_self {d : Dict κ α} (p : κ → α → Bool)
    (h : ∀ e ∈ d.entries, p e.1 e.2 = true) : d.filter p = d := by
  obtain ⟨l⟩ := d
  rw [filter, List.filter_eq_self.mpr h]

@[simp] theorem keys_map (f : κ → α → β) (d : Dict κ α) : (d.map f).keys = d.keys := by
  simp [keys, map]

/-! ## Order of the keys -/

section
variable [LT κ]

theorem wellOrdered_empty : (∅ : Dict κ α).WellOrdered := List.Pairwise.nil

theorem WellOrdered.filter {d : Dict κ α} (h : d.WellOrdered) (p : κ → α → Bool) :
    (d.filter p).WellOrdered :=
  List.Pairwise.sublist (List.filter_sublist.map _) h

theorem WellOrdered.erase [DecidableEq κ] {d : Dict κ α} (h : d.WellOrdered) (k : κ) :
    (d.erase k).WellOrdered :=
  h.filter _

theorem WellOrdered.map {d : Dict κ α} (h : d.WellOrdered) (f : κ → α → β) :
    (d.map f).WellOrdered := by
  rwa [WellOrdered, keys_map]

theorem WellOrdered.nodup [Std.Irrefl (fun a b : κ => a < b)] {d : Dict κ α} (h : d.WellOrdered) :
    d.keys.Nodup := by
  refine List.Pairwise.imp ?_ h
  intro a b hab heq
  subst heq
  exact Std.Irrefl.irrefl (r := fun a b : κ => a < b) a hab

theorem WellOrdered.nodup_entries [Std.Irrefl (fun a b : κ => a < b)] {d : Dict κ α}
    (h : d.WellOrdered) : d.entries.Nodup :=
  List.Pairwise.of_map (·.1) (fun _ _ hne heq => hne (congrArg (·.1) heq)) h.nodup

/-- Two dictionaries in which look-up finds the same are the same. -/
theorem WellOrdered.ext [DecidableEq κ] [Std.Irrefl (fun a b : κ => a < b)]
    [Trans (fun a b : κ => a < b) (fun a b : κ => a < b) (fun a b : κ => a < b)]
    {d d' : Dict κ α} (hd : d.WellOrdered) (hd' : d'.WellOrdered)
    (h : ∀ k, d.get? k = d'.get? k) : d = d' := by
  have hmem (e : κ × α) : e ∈ d.entries ↔ e ∈ d'.entries := by
    rw [mem_entries_iff hd.nodup, mem_entries_iff hd'.nodup, h]
  have hperm : d.entries.Perm d'.entries :=
    (List.perm_ext_iff_of_nodup hd.nodup_entries hd'.nodup_entries).mpr hmem
  -- Entries with the same members in strict order are the same lists.
  have hentries : d.entries = d'.entries := by
    refine hperm.eq_of_pairwise (fun e e' _ _ hlt hgt => ?_) (List.pairwise_map.mp hd)
      (List.pairwise_map.mp hd')
    have hself : e.1 < e.1 :=
      Trans.trans (r := fun a b : κ => a < b) (s := fun a b : κ => a < b) hlt hgt
    exact absurd hself (Std.Irrefl.irrefl (r := fun a b : κ => a < b) e.1)
  cases d
  cases d'
  rw [mk.injEq]
  exact hentries

end

/-! ## Building a dictionary -/

section
variable [DecidableEq κ] [LT κ] [DecidableLT κ]

/-- Putting in an entry brings in no other one. -/
theorem mem_insertEntry {k : κ} {v : α} {l : List (κ × α)} {e : κ × α}
    (h : e ∈ insertEntry k v l) : e = (k, v) ∨ e ∈ l := by
  induction l with
  | nil => exact .inl (List.mem_singleton.mp h)
  | cons first rest ih =>
    rw [insertEntry] at h
    split at h
    · rcases List.mem_cons.mp h with h | h
      · exact .inl h
      · exact .inr (List.mem_cons_of_mem _ h)
    · split at h
      · exact List.mem_cons.mp h
      · rcases List.mem_cons.mp h with h | h
        · exact .inr (h ▸ List.mem_cons_self)
        · exact (ih h).imp id (List.mem_cons_of_mem _)

/-- Of two values set for one key the second one stays. -/
theorem insert_insert_self (d : Dict κ α) (k : κ) (v w : α) :
    (d.insert k v).insert k w = d.insert k w := by
  obtain ⟨l⟩ := d
  simp only [Dict.insert, mk.injEq]
  induction l with
  | nil => simp [insertEntry]
  | cons first rest ih =>
    by_cases heq : k = first.1
    · simp [insertEntry, heq]
    · by_cases hlt : k < first.1
      · simp [insertEntry, heq, hlt]
      · simp only [insertEntry, if_neg heq, if_neg hlt, ih]

/-- Entries put in one after the other: the last one of a key counts, and a key without one keeps
its value. -/
theorem get?_foldl_insert (l : List (κ × α)) (d : Dict κ α) (k : κ) :
    (l.foldl (fun d e => d.insert e.1 e.2) d).get? k =
      ((l.filter fun e => e.1 = k).getLast?.map (·.2)).or (d.get? k) := by
  induction l generalizing d with
  | nil => rfl
  | cons e rest ih =>
    rw [List.foldl_cons, ih, get?_insert]
    by_cases hk : e.1 = k
    · rw [List.filter_cons_of_pos (by simpa using hk), if_pos hk.symm, List.getLast?_cons]
      cases (rest.filter fun e => e.1 = k).getLast? <;> rfl
    · rw [List.filter_cons_of_neg (by simpa using hk), if_neg (Ne.symm hk)]

/-- A dictionary built from a list holds the last entry of each key. -/
theorem get?_ofList (l : List (κ × α)) (k : κ) :
    (ofList l).get? k = (l.filter fun e => e.1 = k).getLast?.map (·.2) := by
  rw [ofList, get?_foldl_insert, get?_empty, Option.or_none]

theorem mem_of_get?_ofList {l : List (κ × α)} {k : κ} {v : α} (h : (ofList l).get? k = some v) :
    (k, v) ∈ l := by
  rw [get?_ofList] at h
  obtain ⟨⟨k', v'⟩, hlast, rfl⟩ := Option.map_eq_some_iff.mp h
  obtain ⟨hmem, hk⟩ := List.mem_filter.mp (List.mem_of_getLast? hlast)
  cases (of_decide_eq_true hk : k' = k)
  exact hmem

variable [Trans (fun a b : κ => a < b) (fun a b : κ => a < b) (fun a b : κ => a < b)]
  [Std.Trichotomous (fun a b : κ => a < b)]

/-- An entry is put in at the place that the order of keys wants. -/
theorem WellOrdered.insert {d : Dict κ α} (h : d.WellOrdered) (k : κ) (v : α) :
    (d.insert k v).WellOrdered := by
  obtain ⟨l⟩ := d
  simp only [WellOrdered, keys, Dict.insert] at h ⊢
  induction l with
  | nil => simp [insertEntry]
  | cons first rest ih =>
    rw [List.map_cons, List.pairwise_cons] at h
    obtain ⟨hfirst, hrest⟩ := h
    rw [insertEntry]
    split
    · next hk => exact List.pairwise_cons.mpr ⟨hk ▸ hfirst, hrest⟩
    · next hne =>
      split
      · next hlt =>
        refine List.pairwise_cons.mpr ⟨?_, List.pairwise_cons.mpr ⟨hfirst, hrest⟩⟩
        intro k' hk'
        rcases List.mem_cons.mp hk' with rfl | hk'
        · exact hlt
        · have hle := hfirst k' hk'
          exact Trans.trans (r := fun a b : κ => a < b) (s := fun a b : κ => a < b) hlt hle
      · next hnlt =>
        -- The new key comes after the first one, since it neither equals it nor comes before it.
        have hgt : first.1 < k :=
          Decidable.byContradiction fun hn =>
            hne (Std.Trichotomous.trichotomous (r := fun a b : κ => a < b) k first.1 hnlt hn)
        refine List.pairwise_cons.mpr ⟨fun k' hk' => ?_, ih hrest⟩
        obtain ⟨e, he, rfl⟩ := List.mem_map.mp hk'
        rcases mem_insertEntry he with rfl | he
        · exact hgt
        · exact hfirst _ (List.mem_map_of_mem he)

theorem WellOrdered.foldl_insert {d : Dict κ α} (h : d.WellOrdered) (l : List (κ × α)) :
    (l.foldl (fun d e => d.insert e.1 e.2) d).WellOrdered := by
  induction l generalizing d with
  | nil => exact h
  | cons e rest ih => exact ih (h.insert e.1 e.2)

theorem wellOrdered_ofList (l : List (κ × α)) : (ofList l).WellOrdered :=
  wellOrdered_empty.foldl_insert l

/-! ## Updating a dictionary -/

/-- The dictionary with the entries of another one put over its own. -/
def updatedBy (d d' : Dict κ α) : Dict κ α :=
  d'.entries.foldl (fun d e => d.insert e.1 e.2) d

theorem WellOrdered.updatedBy {d : Dict κ α} (hd : d.WellOrdered) (d' : Dict κ α) :
    (d.updatedBy d').WellOrdered :=
  hd.foldl_insert d'.entries

variable [Std.Irrefl (fun a b : κ => a < b)]

/-- The order in which the entries of a dictionary are put in does not matter. -/
theorem WellOrdered.ofList_perm {d : Dict κ α} (hd : d.WellOrdered) {l : List (κ × α)}
    (h : l.Perm d.entries) : ofList l = d := by
  refine (wellOrdered_ofList l).ext hd fun k => Option.ext fun v => ?_
  constructor
  · intro hv
    exact get?_of_mem_entries hd.nodup (h.mem_iff.mp (mem_of_get?_ofList hv))
  · intro hv
    have hmem : (k, v) ∈ l.filter fun e => e.1 = k :=
      List.mem_filter.mpr ⟨h.mem_iff.mpr (mem_entries_of_get? hv), decide_eq_true rfl⟩
    obtain ⟨⟨k', v'⟩, hlast⟩ :=
      Option.isSome_iff_exists.mp (List.getLast?_isSome.mpr (List.ne_nil_of_mem hmem))
    have hfound : (ofList l).get? k = some v' := by
      rw [get?_ofList, hlast]
      rfl
    -- The entry that was put in last for the key is the only one.
    have hentry := get?_of_mem_entries hd.nodup (h.mem_iff.mp (mem_of_get?_ofList hfound))
    rw [hfound, ← hentry, hv]

/-- Look-up finds what the update has, and else what was there. -/
theorem get?_updatedBy (d : Dict κ α) {d' : Dict κ α} (hd' : d'.WellOrdered) (k : κ) :
    (d.updatedBy d').get? k = (d'.get? k).or (d.get? k) := by
  rw [updatedBy, get?_foldl_insert, ← get?_ofList, hd'.ofList_perm (List.Perm.refl _)]

/-- Entries that come later win over earlier ones. -/
theorem ofList_append (l r : List (κ × α)) :
    ofList (l ++ r) = (ofList l).updatedBy (ofList r) := by
  refine (wellOrdered_ofList _).ext ((wellOrdered_ofList l).updatedBy _) fun k => ?_
  rw [get?_updatedBy _ (wellOrdered_ofList r), ofList, List.foldl_append, get?_foldl_insert,
    ← get?_ofList]
  rfl

end

end ClusterGate.Dict
