/-!
# Values under names

A finite map from names to values, kept as a list in which a name stands once. A new name goes to
the end and a known one keeps its place, so the order is that of first insertion.
-/

namespace StorageLifecycle

structure Keyed (α : Type) where
  entries : List (String × α)
deriving DecidableEq, Repr

namespace Keyed

variable {α : Type}

def empty : Keyed α := ⟨[]⟩

instance : Inhabited (Keyed α) := ⟨empty⟩

def find? (m : Keyed α) (k : String) : Option α := m.entries.lookup k

def contains (m : Keyed α) (k : String) : Bool := (m.find? k).isSome

def size (m : Keyed α) : Nat := m.entries.length

def keys (m : Keyed α) : List String := m.entries.map (·.1)

/-- Puts a value under a name, in place of the one that is there. -/
def insertEntry (k : String) (v : α) : List (String × α) → List (String × α)
  | [] => [(k, v)]
  | (k', v') :: rest => if k = k' then (k, v) :: rest else (k', v') :: insertEntry k v rest

def insert (m : Keyed α) (k : String) (v : α) : Keyed α := ⟨insertEntry k v m.entries⟩

def erase (m : Keyed α) (k : String) : Keyed α := ⟨m.entries.filter fun p => p.1 != k⟩

@[simp] theorem find?_empty (k : String) : (empty : Keyed α).find? k = none := rfl

theorem lookup_insertEntry (k k' : String) (v : α) (l : List (String × α)) :
    (insertEntry k v l).lookup k' = if k' = k then some v else l.lookup k' := by
  induction l with
  | nil => simp only [insertEntry, List.lookup_cons, List.lookup_nil]; split <;> simp_all
  | cons p rest ih =>
    obtain ⟨q, w⟩ := p
    simp only [insertEntry]
    split
    · subst_vars
      simp only [List.lookup_cons]
      split <;> simp_all
    · simp only [List.lookup_cons]
      split
      · rename_i hq
        have : k' = q := by simpa using hq
        subst this
        simp_all [eq_comm]
      · exact ih

/-- A name finds the value last put under it. -/
theorem find?_insert (m : Keyed α) (k k' : String) (v : α) :
    (m.insert k v).find? k' = if k' = k then some v else m.find? k' :=
  lookup_insertEntry k k' v m.entries

theorem lookup_filter_ne (k k' : String) (l : List (String × α)) :
    (l.filter fun p => p.1 != k).lookup k' = if k' = k then none else l.lookup k' := by
  induction l with
  | nil => simp
  | cons p rest ih =>
    obtain ⟨q, w⟩ := p
    by_cases hq : q = k
    · subst hq
      rw [List.filter_cons_of_neg (by simp), ih]
      by_cases hk : k' = q
      · simp [hk]
      · have hk' : (k' == q) = false := by simpa using hk
        simp [List.lookup_cons, hk, hk']
    · by_cases hk : k' = q
      · subst hk
        simp [hq]
      · have hk' : (k' == q) = false := by simpa using hk
        simp [List.lookup_cons, hq, hk', ih]

/-- A name that was taken out finds nothing; the others find what they found. -/
theorem find?_erase (m : Keyed α) (k k' : String) :
    (m.erase k).find? k' = if k' = k then none else m.find? k' :=
  lookup_filter_ne k k' m.entries

end Keyed

end StorageLifecycle
