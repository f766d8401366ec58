import Mathlib.Data.List.Nodup
import StorageLifecycle.Keyed

/-!
# Laws of values under names

A map is lawful when each name stands once. All maps of the library are made from the empty one by
putting values in and taking them out, which keeps them lawful; in a lawful map, looking a name up
and being an entry are the same.
-/

namespace StorageLifecycle.Keyed

variable {α : Type} {m : Keyed α} {k k' : String} {v : α}

/-- Each name stands once. -/
def Lawful (m : Keyed α) : Prop := m.keys.Nodup

theorem lawful_empty : (empty : Keyed α).Lawful := List.nodup_nil

theorem mem_keys_insertEntry {l : List (String × α)} :
    k' ∈ (insertEntry k v l).map (·.1) ↔ k' = k ∨ k' ∈ l.map (·.1) := by
  induction l with
  | nil => simp [insertEntry]
  | cons p rest ih =>
      obtain ⟨q, w⟩ := p
      simp only [insertEntry]
      split
      · rename_i hk
        subst hk
        simp
      · simp only [List.map_cons, List.mem_cons, ih]
        exact or_left_comm

theorem nodup_keys_insertEntry {l : List (String × α)} (h : (l.map (·.1)).Nodup) :
    ((insertEntry k v l).map (·.1)).Nodup := by
  induction l with
  | nil => simp [insertEntry]
  | cons p rest ih =>
      obtain ⟨q, w⟩ := p
      obtain ⟨hq, hrest⟩ := List.nodup_cons.mp h
      simp only [insertEntry]
      split
      · rename_i hk
        subst hk
        exact h
      · rename_i hk
        refine List.nodup_cons.mpr ⟨?_, ih hrest⟩
        intro hmem
        rcases mem_keys_insertEntry.mp hmem with heq | hold
        · exact hk heq.symm
        · exact hq hold

theorem Lawful.insert (h : m.Lawful) : (m.insert k v).Lawful :=
  nodup_keys_insertEntry h

theorem keys_erase : (m.erase k).keys = m.keys.filter (· != k) := by
  unfold keys erase
  rw [List.filter_map]
  rfl

theorem Lawful.erase (h : m.Lawful) : (m.erase k).Lawful := by
  unfold Lawful
  rw [keys_erase]
  exact List.Nodup.filter _ h

/-- In a lawful map a name finds exactly the value of its entry. -/
theorem find?_eq_some_iff (h : m.Lawful) : m.find? k = some v ↔ (k, v) ∈ m.entries := by
  obtain ⟨l⟩ := m
  change (l.map (·.1)).Nodup at h
  show l.lookup k = some v ↔ (k, v) ∈ l
  induction l with
  | nil => simp
  | cons p rest ih =>
      obtain ⟨q, w⟩ := p
      obtain ⟨hq, hrest⟩ := List.nodup_cons.mp h
      rw [List.lookup_cons, List.mem_cons]
      by_cases hk : k = q
      · subst hk
        have habsent : (k, v) ∉ rest := fun hmem => hq (List.mem_map.mpr ⟨(k, v), hmem, rfl⟩)
        simp only [beq_self_eq_true, Option.some.injEq, Prod.mk.injEq, true_and, habsent, or_false]
        exact eq_comm
      · have hbeq : (k == q) = false := by simpa using hk
        simp only [hbeq, Prod.mk.injEq, hk, false_and, false_or]
        exact ih hrest

theorem mem_entries_of_find? (h : m.find? k = some v) : (k, v) ∈ m.entries := by
  obtain ⟨l⟩ := m
  change l.lookup k = some v at h
  induction l with
  | nil => simp at h
  | cons p rest ih =>
      obtain ⟨q, w⟩ := p
      rw [List.lookup_cons] at h
      split at h
      · rename_i hk
        have heq : k = q := by simpa using hk
        cases h
        exact heq ▸ List.mem_cons_self
      · exact List.mem_cons_of_mem _ (ih h)

/-- A name is a key exactly when it finds something. -/
theorem mem_keys_iff : k ∈ m.keys ↔ ∃ v, m.find? k = some v := by
  obtain ⟨l⟩ := m
  show k ∈ l.map (·.1) ↔ ∃ v, l.lookup k = some v
  induction l with
  | nil => simp
  | cons p rest ih =>
      obtain ⟨q, w⟩ := p
      rw [List.map_cons, List.mem_cons, List.lookup_cons]
      by_cases hk : k = q
      · subst hk
        simp
      · have hbeq : (k == q) = false := by simpa using hk
        simp only [hk, false_or, hbeq]
        exact ih

theorem find?_eq_none_iff : m.find? k = none ↔ k ∉ m.keys := by
  rw [mem_keys_iff, Option.eq_none_iff_forall_not_mem]
  simp

/-- A new name goes to the end. -/
theorem entries_insert_of_not_mem (h : k ∉ m.keys) :
    (m.insert k v).entries = m.entries ++ [(k, v)] := by
  obtain ⟨l⟩ := m
  change k ∉ l.map (·.1) at h
  show insertEntry k v l = l ++ [(k, v)]
  induction l with
  | nil => rfl
  | cons p rest ih =>
      obtain ⟨q, w⟩ := p
      rw [List.map_cons, List.mem_cons, not_or] at h
      simp only [insertEntry, if_neg h.1, ih h.2, List.cons_append]

/-! ## Changing the values -/

variable {β : Type} {f : α → β}

/-- The same names with other values. -/
def map (f : α → β) (m : Keyed α) : Keyed β := ⟨m.entries.map fun p => (p.1, f p.2)⟩

theorem find?_map : (m.map f).find? k = (m.find? k).map f := by
  obtain ⟨l⟩ := m
  show (l.map fun p => (p.1, f p.2)).lookup k = (l.lookup k).map f
  induction l with
  | nil => rfl
  | cons p rest ih =>
      obtain ⟨q, w⟩ := p
      rw [List.map_cons, List.lookup_cons, List.lookup_cons]
      cases k == q with
      | true => rfl
      | false => exact ih

theorem map_insert : (m.insert k v).map f = (m.map f).insert k (f v) := by
  obtain ⟨l⟩ := m
  refine congrArg Keyed.mk ?_
  show (insertEntry k v l).map (fun p => (p.1, f p.2)) =
    insertEntry k (f v) (l.map fun p => (p.1, f p.2))
  induction l with
  | nil => rfl
  | cons p rest ih =>
      obtain ⟨q, w⟩ := p
      simp only [insertEntry, List.map_cons]
      split
      · rfl
      · rw [List.map_cons, ih]

/-- The values, in the order of their names. -/
def values (m : Keyed α) : List α := m.entries.map (·.2)

theorem values_map : (m.map f).values = m.values.map f := by
  rw [values, values, map, List.map_map, List.map_map]
  rfl

theorem mem_values_iff (h : m.Lawful) : v ∈ m.values ↔ ∃ k, m.find? k = some v := by
  unfold values
  rw [List.mem_map]
  constructor
  · rintro ⟨⟨k, v'⟩, hmem, rfl⟩
    exact ⟨k, (find?_eq_some_iff h).mpr hmem⟩
  · rintro ⟨k, hk⟩
    exact ⟨(k, v), mem_entries_of_find? hk, rfl⟩

theorem values_insert_of_not_mem (h : k ∉ m.keys) : (m.insert k v).values = m.values ++ [v] := by
  rw [values, entries_insert_of_not_mem h, List.map_append]
  rfl

end StorageLifecycle.Keyed
