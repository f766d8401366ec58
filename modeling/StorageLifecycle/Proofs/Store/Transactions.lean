import StorageLifecycle.Proofs.Store.Filling

/-!
# Batches of entities in a transaction

Each entity of a batch takes up to two statements: one inserts it and does nothing on a conflict, and one
looks for the row it conflicts with. The ids come in the order of the batch, so that the caller can write
them onto its entities one by one. If an entity is refused, the transaction is dropped: no row of the batch
is left, and the caller's entities are as they were.
-/

namespace StorageLifecycle.RelationalStore

open Relational

variable {s s' : RelationalStore} {batch : List Entity} {ids : List EntityId} {err : StoreError}

/-! ## The caller's entities -/

/-- The caller's entities when the answer to its batch is there. -/
def returned (batch : List Entity) : Except StoreError (List EntityId) → List Entity
  | .ok ids => Entity.assignIds batch ids
  | .error _ => batch

/-- The store has the row of an entity under this id: it has the UID or the natural key of the entity. -/
def Keeps (s : RelationalStore) (e : Entity) (id : EntityId) : Prop :=
  ∃ row ∈ s.entities.rows, row.id = id ∧ conflicts e row = true

theorem Keeps.mono {e : Entity} {id : EntityId} (h : s.Keeps e id) (hwidened : s.Widened s') :
    s'.Keeps e id := by
  obtain ⟨row, hrow, hid⟩ := h
  exact ⟨row, hwidened.entities.mem hrow, hid⟩

theorem conflicts_ofEntity_self (id : EntityId) (e : Entity) :
    conflicts e (.ofEntity id e) = true := by
  simp [conflicts, uidMatches, EntityRow.ofEntity]

/-- An entity that was saved has a row under the id that it was given. -/
theorem keeps_of_insertEntity {e : Entity} {id : EntityId} (h : s.insertEntity e = .ok (id, s')) :
    s'.Keeps e id := by
  rcases insertEntity_cases h with ⟨next, hfind, -, rfl⟩ | ⟨-, -, -, rfl⟩
  · obtain ⟨row, hrow, hconflict, hid⟩ := conflict_of_findExisting hfind
    exact ⟨row, hrow, hid, hconflict⟩
  · refine ⟨.ofEntity id e, ?_, rfl, conflicts_ofEntity_self id e⟩
    exact List.mem_append_right _ (List.mem_singleton.mpr rfl)

/-! ## One entity after the other -/

/-- A batch that is taken to its end has gone through its first entity and through the rest. -/
theorem insertEntities_cons_of_ok {e : Entity} (h : s.insertEntities (e :: batch) = (.ok ids, s')) :
    ∃ id s₁ rest, s.insertEntity e = .ok (id, s₁) ∧ s₁.insertEntities batch = (.ok rest, s') ∧
      ids = id :: rest := by
  unfold insertEntities at h
  cases hone : s.insertEntity e with
  | error err =>
      rw [hone] at h
      cases h
  | ok p =>
      obtain ⟨id, s₁⟩ := p
      rw [hone] at h
      cases hrest : s₁.insertEntities batch with
      | mk answer s₂ =>
          simp only [hrest] at h
          cases answer with
          | error err => cases h
          | ok rest =>
              cases h
              exact ⟨id, s₁, rest, rfl, hrest, rfl⟩

/-- A batch is refused at its first entity, or behind it. -/
theorem insertEntities_cons_of_error {e : Entity}
    (h : (s.insertEntities (e :: batch)).1 = .error err) :
    s.insertEntity e = .error err ∨
      ∃ id s₁, s.insertEntity e = .ok (id, s₁) ∧ (s₁.insertEntities batch).1 = .error err := by
  unfold insertEntities at h
  cases hone : s.insertEntity e with
  | error err' =>
      rw [hone] at h
      exact .inl (congrArg _ (Except.error.inj h))
  | ok p =>
      obtain ⟨id, s₁⟩ := p
      rw [hone] at h
      refine .inr ⟨id, s₁, rfl, ?_⟩
      cases hrest : (s₁.insertEntities batch).1 with
      | error err' =>
          simp only [hrest] at h
          exact congrArg _ (Except.error.inj h)
      | ok rest =>
          simp only [hrest] at h
          cases h

/-- All that a batch does to the rows is to put rows of its entities behind them. -/
theorem insertEntities_added (batch : List Entity) :
    ∃ added, (s.insertEntities batch).2.entities.rows = s.entities.rows ++ added ∧
      ∀ r ∈ added, ∃ e ∈ batch, r = .ofEntity r.id e := by
  induction batch generalizing s with
  | nil => exact ⟨[], (List.append_nil _).symm, List.forall_mem_nil _⟩
  | cons e rest ih =>
      unfold insertEntities
      cases hone : s.insertEntity e with
      | error err => exact ⟨[], (List.append_nil _).symm, List.forall_mem_nil _⟩
      | ok p =>
          obtain ⟨id, s₁⟩ := p
          obtain ⟨added, hrows, hforms⟩ := ih (s := s₁)
          have hforms' : ∀ r ∈ added, ∃ x ∈ e :: rest, r = .ofEntity r.id x := by
            intro r hr
            obtain ⟨x, hx, hform⟩ := hforms r hr
            exact ⟨x, List.mem_cons_of_mem _ hx, hform⟩
          -- The first entity adds no row or one, and the rows of the others come behind it.
          rcases insertEntity_cases hone with ⟨next, -, -, rfl⟩ | ⟨-, -, -, rfl⟩
          · exact ⟨added, hrows, hforms'⟩
          · refine ⟨.ofEntity id e :: added, ?_, ?_⟩
            · rw [List.append_cons]
              exact hrows
            · exact List.forall_mem_cons.mpr ⟨⟨e, List.mem_cons_self, rfl⟩, hforms'⟩

/-- The ids of a batch are in line with its entities: each one is the id of a row of its entity. -/
theorem insertEntities_aligned (h : s.insertEntities batch = (.ok ids, s')) :
    List.Forall₂ s'.Keeps batch ids := by
  induction batch generalizing s ids with
  | nil =>
      cases h
      exact .nil
  | cons e rest ih =>
      obtain ⟨id, s₁, more, hone, hrest, rfl⟩ := insertEntities_cons_of_ok h
      have hwidened := insertEntities_widened (s := s₁) rest
      rw [hrest] at hwidened
      exact .cons ((keeps_of_insertEntity hone).mono hwidened) (ih hrest)

/-! ## What a batch is refused for -/

/-- An entity of the batch conflicts with no row, also with none of the earlier ones of the batch, which
are inserted, and names a test case that is not there. -/
def Orphaned (s : RelationalStore) (batch : List Entity) : Prop :=
  ∃ earlier e later ids s₁, batch = earlier ++ e :: later ∧ s.insertEntities earlier = (.ok ids, s₁) ∧
    (∀ row ∈ s₁.entities.rows, conflicts e row = false) ∧ s.hasTestCase e.testCase = false

/-- The reasons for which a batch is refused, with their errors. -/
inductive Refusal (s : RelationalStore) (batch : List Entity) : StoreError → Prop where
  | full : ¬ s.entities.HasRoom EntityRow.id batch.length → Refusal s batch full
  | orphaned : s.Orphaned batch → Refusal s batch (.query foreignKeyText)

theorem Orphaned.cons {e : Entity} {id : EntityId} {s₁ : RelationalStore}
    (hone : s.insertEntity e = .ok (id, s₁)) (h : s₁.Orphaned batch) : s.Orphaned (e :: batch) := by
  obtain ⟨earlier, x, later, ids, s₂, rfl, hearlier, hfree, hcase⟩ := h
  refine ⟨e :: earlier, x, later, id :: ids, s₂, rfl, ?_, hfree, ?_⟩
  · simp [insertEntities, hone, hearlier, Except.map]
  · rw [← (insertEntity_of_ok hone).1.hasTestCase]
    exact hcase

/-- Each entity that is saved takes the room of one row, also if it has one already. -/
theorem hasRoom_of_insertEntity {e : Entity} {id : EntityId} {n : Nat}
    (h : s.insertEntity e = .ok (id, s')) :
    s'.entities.HasRoom EntityRow.id n ↔ s.entities.HasRoom EntityRow.id (n + 1) := by
  rcases insertEntity_cases h with ⟨next, -, hnext, rfl⟩ | ⟨-, -, hnext, rfl⟩
  · exact Table.hasRoom_skip hnext
  · exact Table.hasRoom_push hnext rfl

theorem insertEntity_refusal {e : Entity} (h : s.insertEntity e = .error err) :
    s.Refusal (e :: batch) err := by
  rcases insertEntity_of_error h with hnext | ⟨hfind, hcase, rfl⟩
  · have hfull : err = full := by
      unfold Table.next at hnext
      dsimp only at hnext
      split at hnext
      · exact nomatch hnext
      · exact (Except.error.inj hnext).symm
    subst hfull
    refine .full fun hroom => ?_
    obtain ⟨id, hid⟩ := hroom.next
    exact nomatch hnext.symm.trans hid
  · refine .orphaned ⟨[], e, batch, [], s, rfl, rfl, fun row hrow => ?_, hcase⟩
    have hany := findExisting_eq_none_iff.mp hfind
    exact Bool.eq_false_iff.mpr (List.any_eq_false.mp hany row hrow)

/-- A batch is refused for want of ids or of a test case, and never because a row is not found that an
entity conflicts with. -/
theorem insertEntities_refusal (h : (s.insertEntities batch).1 = .error err) : s.Refusal batch err := by
  induction batch generalizing s with
  | nil => exact nomatch h
  | cons e rest ih =>
      rcases insertEntities_cons_of_error h with hone | ⟨id, s₁, hone, hrest⟩
      · exact insertEntity_refusal hone
      · -- Behind the first entity there is room for one row less, and what the rest is refused for is a
        -- reason to refuse the whole batch.
        cases ih hrest with
        | full hfull => exact .full fun hroom => hfull ((hasRoom_of_insertEntity hone).mpr hroom)
        | orphaned horphaned => exact .orphaned (horphaned.cons hone)

/-- An insert that a conflict turns into nothing is followed by a query that finds a row. -/
theorem findExisting_of_insertOrIgnore {e : Entity} {s₁ : RelationalStore}
    (h : s.insertOrIgnore e = .ok (none, s₁)) : ∃ id, s₁.findExisting e = some id := by
  unfold insertOrIgnore at h
  obtain ⟨next, -, h⟩ := bind_of_ok h
  split at h
  · rename_i hany
    cases h
    exact findExisting_of_conflict hany
  · split at h
    · cases h
    · exact nomatch h

/-! ## Every batch -/

/-- A batch that is taken: each of the caller's entities has got the id of a row that is the same as it, in
turn; the old rows are as they were, and the new ones are of entities of the batch. -/
structure Taken (s : RelationalStore) (batch : List Entity) (ids : List EntityId)
    (s' : RelationalStore) : Prop where
  aligned : List.Forall₂ (fun e given => ∃ row ∈ s'.entities.rows, conflicts e row = true ∧
    given = { e with id := row.id }) batch (returned batch (.ok ids))
  added : ∃ added, s'.entities.rows = s.entities.rows ++ added ∧
    ∀ r ∈ added, ∃ e ∈ batch, r = .ofEntity r.id e
  others : s'.testCases = s.testCases ∧ s'.events = s.events ∧ s'.counts = s.counts

/-- A batch that is refused: there is a reason for it, no table has changed, and neither has one of the
caller's entities. -/
structure Dropped (s : RelationalStore) (batch : List Entity) (err : StoreError)
    (s' : RelationalStore) : Prop where
  refusal : s.Refusal batch err
  found : err ≠ noRows
  rolledBack : s' = { s with resolved := s'.resolved }
  unassigned : returned batch (.error err) = batch

/-- What becomes of a batch, by its answer. -/
def Transacted (s : RelationalStore) (batch : List Entity) :
    Except StoreError (List EntityId) × RelationalStore → Prop
  | (.ok ids, s') => s.Taken batch ids s'
  | (.error err, s') => s.Dropped batch err s'

theorem assignIds_aligned {P : Entity → EntityId → Prop} (h : List.Forall₂ P batch ids) :
    List.Forall₂ (fun e given => ∃ id, P e id ∧ given = { e with id }) batch (Entity.assignIds batch ids) := by
  induction h with
  | nil => exact .nil
  | cons hone _ ih => exact .cons ⟨_, hone, rfl⟩ ih

theorem Refusal.ne_noRows (h : s.Refusal batch err) : err ≠ noRows := by
  cases h with
  | full _ => decide
  | orphaned _ => decide

/-- A batch of entities is atomic, and its ids are in line with its entities; and an insert that did nothing
is always followed by a query that finds the row. -/
theorem saveEntities_transacted (s : RelationalStore) (batch : List Entity) :
    s.Transacted batch ((EventStore.saveEntities batch).perform s) ∧
      ∀ e s₁, s.insertOrIgnore e = .ok (none, s₁) → ∃ id, s₁.findExisting e = some id := by
  refine ⟨?_, fun e s₁ => findExisting_of_insertOrIgnore⟩
  show s.Transacted batch (s.saveEntities batch)
  have hwidened := insertEntities_widened (s := s) batch
  have hadded := insertEntities_added (s := s) batch
  unfold RelationalStore.saveEntities
  cases hinserted : s.insertEntities batch with
  | mk answer s' =>
      rw [hinserted] at hwidened hadded
      cases answer with
      | ok ids =>
          refine ⟨(assignIds_aligned (insertEntities_aligned hinserted)).imp ?_, hadded,
            hwidened.testCases, hwidened.events, hwidened.counts⟩
          rintro e given ⟨id, ⟨row, hrow, rfl, hconflict⟩, rfl⟩
          exact ⟨row, hrow, hconflict, rfl⟩
      | error err =>
          have hrefusal := insertEntities_refusal (congrArg Prod.fst hinserted)
          exact ⟨hrefusal, hrefusal.ne_noRows, rfl, rfl⟩

/-- What is saved again gets the id of its row, and uses up one of its own: the third entity is the second
row, and its id is 3. -/
example :
    let entity (name uid : String) : Entity := .fresh name uid .pvc 1
    let batch := [entity "a" "u", entity "a" "v", entity "b" "w", entity "c" "u"]
    let s := (EventStore.createTestCase ⟨0, "t", "r", ⟨0⟩, none, none⟩).perform empty
    (returned batch ((EventStore.saveEntities batch).perform s.2).1).map (·.id) = [1, 1, 3, 1] := by
  rfl

end StorageLifecycle.RelationalStore
