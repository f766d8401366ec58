import StorageLifecycle.Proofs.Store.Relational

/-!
# How the relational store fills up

The ids of a table ascend, and each write of a row uses up exactly one, whether a row comes of it or not.
So a table that has used up `n` ids gives the id `n + 1` to the next row. The only write that has to fail
is one after some 2⁶³ others, and it fails for want of ids: what is said of a write is said barring that.
-/

namespace StorageLifecycle.Relational

variable {α β ρ : Type} {n k : Nat}

/-! ## Barring the end of the ids -/

/-- The outcome is as it should be, or the ids have come to an end, for which there must be as many
writes as there are ids. -/
def UnlessFull (n : Nat) (P : α → Prop) : Except StoreError α → Prop
  | .ok a => P a
  | .error e => e = full ∧ Word.half 64 ≤ n

theorem UnlessFull.bind {P : α → Prop} {Q : β → Prop} {x : Except StoreError α}
    {f : α → Except StoreError β} (hx : UnlessFull n P x) (hf : ∀ a, P a → UnlessFull n Q (f a)) :
    UnlessFull n Q (x >>= f) := by
  cases x with
  | error e => exact hx
  | ok a => exact hf a hx

theorem UnlessFull.map {P : α → Prop} {Q : β → Prop} {x : Except StoreError α} {f : α → β}
    (hx : UnlessFull n P x) (hf : ∀ a, P a → Q (f a)) : UnlessFull n Q (x.map f) := by
  cases x with
  | error e => exact hx
  | ok a => exact hf a hx

theorem UnlessFull.imp {P Q : α → Prop} {x : Except StoreError α} (hx : UnlessFull n P x)
    (h : ∀ a, P a → Q a) : UnlessFull n Q x := by
  cases x with
  | error e => exact hx
  | ok a => exact h a hx

/-! ## Tables -/

/-- The table has used up so many ids, and its rows ascend. -/
structure Table.Counted (idOf : ρ → Int) (t : Table ρ) (n : Nat) : Prop where
  last : t.last = n
  le_last : ∀ r ∈ t.rows, idOf r ≤ t.last
  ascending : (t.rows.map idOf).Pairwise (· < ·)

variable {idOf : ρ → Int} {t : Table ρ}

theorem Table.counted_nil (idOf : ρ → Int) : Table.Counted idOf ⟨[], 0⟩ 0 :=
  ⟨rfl, List.forall_mem_nil _, List.Pairwise.nil⟩

theorem foldl_max_of_le {l : List Int} {i : Int} (h : ∀ j ∈ l, j ≤ i) : l.foldl max i = i := by
  induction l with
  | nil => rfl
  | cons j rest ih =>
      obtain ⟨hj, hrest⟩ := List.forall_mem_cons.mp h
      rw [List.foldl_cons, Int.max_eq_left hj, ih hrest]

/-- A table gives out the number that follows. -/
theorem Table.Counted.next (h : t.Counted idOf n) (hn : n + 1 ≤ k) :
    UnlessFull k (fun id => id = (n : Int) + 1) (t.next idOf) := by
  have hids : ∀ i ∈ t.rows.map idOf, i ≤ t.last := List.forall_mem_map.mpr h.le_last
  have hnext : t.next idOf = if (n : Int) + 1 < Word.half 64 then .ok (n + 1) else .error full := by
    unfold Table.next
    dsimp only
    rw [foldl_max_of_le hids, h.last]
  by_cases hroom : (n : Int) + 1 < Word.half 64
  · rw [hnext, if_pos hroom]
    rfl
  · rw [hnext, if_neg hroom]
    exact ⟨rfl, by omega⟩

/-- The ids that are there lie below the number that follows. -/
theorem Table.Counted.lt_next (h : t.Counted idOf n) : ∀ r ∈ t.rows, idOf r < (n : Int) + 1 :=
  fun r hr => Int.lt_add_one_of_le (h.last ▸ h.le_last r hr)

theorem Table.Counted.push (h : t.Counted idOf n) {row : ρ} (hrow : idOf row = n + 1) :
    (t.push (n + 1) row).Counted idOf (n + 1) where
  last := rfl
  le_last := by
    intro r hr
    rcases List.mem_append.mp hr with hold | hnew
    · exact Int.le_of_lt (h.lt_next r hold)
    · rw [List.mem_singleton.mp hnew, hrow]
      exact Int.le_refl _
  ascending := by
    show ((t.rows ++ [row]).map idOf).Pairwise (· < ·)
    rw [List.map_append, List.map_singleton, List.pairwise_append]
    refine ⟨h.ascending, List.pairwise_singleton _ _, ?_⟩
    intro i hi j hj
    obtain ⟨r, hr, rfl⟩ := List.mem_map.mp hi
    rw [List.mem_singleton.mp hj, hrow]
    exact h.lt_next r hr

theorem Table.Counted.skip (h : t.Counted idOf n) : (t.skip (n + 1)).Counted idOf (n + 1) where
  last := rfl
  le_last r hr := Int.le_of_lt (h.lt_next r hr)
  ascending := h.ascending

/-- Rows may change if their ids stay. -/
theorem Table.Counted.of_ids (h : t.Counted idOf n) {rows : List ρ}
    (hids : rows.map idOf = t.rows.map idOf) : Table.Counted idOf { t with rows } n where
  last := h.last
  le_last r hr := by
    have hle : ∀ i ∈ t.rows.map idOf, i ≤ t.last := List.forall_mem_map.mpr h.le_last
    exact hle _ (hids ▸ List.mem_map_of_mem hr)
  ascending := hids ▸ h.ascending

/-! ## Room -/

/-- The table can still number so many rows. -/
def Table.HasRoom (idOf : ρ → Int) (t : Table ρ) (n : Nat) : Prop :=
  0 < n → (t.rows.map idOf).foldl max t.last + n < Word.half 64

theorem Table.HasRoom.next (h : t.HasRoom idOf (n + 1)) : ∃ id, t.next idOf = .ok id := by
  have hlt := h (Nat.succ_pos n)
  exact ⟨_, if_pos (by omega)⟩

/-- A table that has used up one more id, with or without a row for it. -/
theorem Table.hasRoom_of_used {t' : Table ρ} (hid : t.next idOf = .ok t'.last)
    (hle : ∀ r ∈ t'.rows, idOf r ≤ t'.last) : t'.HasRoom idOf n ↔ t.HasRoom idOf (n + 1) := by
  have hgreatest : (t'.rows.map idOf).foldl max t'.last = t'.last :=
    foldl_max_of_le (List.forall_mem_map.mpr hle)
  unfold Table.next at hid
  dsimp only at hid
  split at hid
  · rename_i hroom
    have hlast := Except.ok.inj hid
    unfold HasRoom
    rw [hgreatest]
    omega
  · exact nomatch hid

/-- A row that is pushed takes the room of one. -/
theorem Table.hasRoom_push {id : Int} {row : ρ} (hid : t.next idOf = .ok id) (hrow : idOf row = id) :
    (t.push id row).HasRoom idOf n ↔ t.HasRoom idOf (n + 1) := by
  refine hasRoom_of_used hid fun r hr => ?_
  rcases List.mem_append.mp hr with hold | hnew
  · exact Int.le_of_lt (Table.lt_next hid r hold)
  · rw [List.mem_singleton.mp hnew]
    exact Int.le_of_eq hrow

/-- So does an id without a row. -/
theorem Table.hasRoom_skip {id : Int} (hid : t.next idOf = .ok id) :
    (t.skip id).HasRoom idOf n ↔ t.HasRoom idOf (n + 1) :=
  hasRoom_of_used hid fun r hr => Int.le_of_lt (Table.lt_next hid r hr)

end StorageLifecycle.Relational
