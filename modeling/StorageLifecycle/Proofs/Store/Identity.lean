import StorageLifecycle.Proofs.Store.Integrity

/-!
# The identity of entities in memory

The id that an entity was given denotes the oldest row that is the same. Rows do not change and new ones
come behind, so this row stays the oldest whatever is called in between, also when a younger row shares
the other key with the entity: who saves an entity again is given the same id.
-/

namespace StorageLifecycle.MemoryStore

variable {m m' : MemoryStore}

/-- New rows come behind the row that was found. -/
theorem findExisting_mono {e : Entity} {id : EntityId} (h : m.entities <+: m'.entities)
    (hfind : m.findExisting e = some id) : m'.findExisting e = some id := by
  obtain ⟨row, hrow, rfl⟩ := Option.map_eq_some_iff.mp hfind
  obtain ⟨added, hadded⟩ := h
  unfold findExisting
  rw [← hadded, List.find?_append, hrow]
  rfl

/-- An entity that was saved is found. -/
theorem findExisting_saveEntity (m : MemoryStore) (e : Entity) :
    (m.saveEntity e).2.findExisting e = some (m.saveEntity e).1 := by
  cases hfind : m.findExisting e with
  | some id =>
      rw [saveEntity_of_existing hfind]
      exact hfind
  | none =>
      have hnone := Option.map_eq_none_iff.mp hfind
      have hself : Entity.sameAs { e with id := m.lastEntity + 1 } e = true :=
        Entity.sameAs_iff.mpr (.inl rfl)
      rw [saveEntity_of_new hfind, findExisting, List.find?_append, hnone, Option.none_or,
        List.find?_singleton, if_pos hself]
      rfl

theorem length_saveEntities (m : MemoryStore) (batch : List Entity) :
    (m.saveEntities batch).1.length = batch.length := by
  induction batch generalizing m with
  | nil => rfl
  | cons e rest ih => exact congrArg (· + 1) (ih (m.saveEntity e).2)

/-- The entities of a batch that was saved are found under their ids. -/
theorem findExisting_saveEntities (m : MemoryStore) (batch : List Entity) :
    ∀ p ∈ batch.zip (m.saveEntities batch).1,
      (m.saveEntities batch).2.findExisting p.1 = some p.2 := by
  induction batch generalizing m with
  | nil => exact List.forall_mem_nil _
  | cons e rest ih =>
      -- The rest of the batch adds rows behind the one of `e`.
      refine List.forall_mem_cons.mpr ⟨?_, ih (m.saveEntity e).2⟩
      exact findExisting_mono (saveEntities_entities _ rest) (findExisting_saveEntity m e)

/-- Saving entities that are found gives the ids under which they are, and adds no row. -/
theorem saveEntities_of_found {again : List (Entity × EntityId)}
    (h : ∀ p ∈ again, m.findExisting p.1 = some p.2) :
    m.saveEntities (again.map Prod.fst) =
      (again.map Prod.snd, { m with resolved := m.resolved + again.length }) := by
  induction again generalizing m with
  | nil => rfl
  | cons p rest ih =>
      obtain ⟨hp, hrest⟩ := List.forall_mem_cons.mp h
      have hone := saveEntity_of_existing hp
      have hothers := ih (m := { m with resolved := m.resolved + 1 }) hrest
      rw [List.map_cons, saveEntities, hone]
      dsimp only
      rw [hothers, Nat.add_right_comm]
      rfl

/-- The id under which an entity is found is the id of one row, which is the same as the entity. -/
theorem Regular.entitiesById_of_found (h : m.Regular) {e : Entity} {id : EntityId}
    (hfind : m.findExisting e = some id) :
    ∃ row, m.entitiesById [id] = [row] ∧ (row.uid = e.uid ∨ row.key = e.key) := by
  obtain ⟨row, hrow, rfl⟩ := Option.map_eq_some_iff.mp hfind
  have hmem := List.mem_of_find?_eq_some hrow
  have hsame : row.sameAs e = true :=
    List.find?_some (p := fun r : Entity => r.sameAs e) hrow
  refine ⟨row, ?_, (Entity.sameAs_iff.mp hsame).symm⟩
  have honly : m.entities.filter (fun r => [row.id].contains r.id) = m.entities.filter (· == row) := by
    refine List.filter_congr fun r hr => ?_
    rw [Bool.eq_iff_iff, List.contains_iff_mem, List.mem_singleton, beq_iff_eq]
    exact ⟨fun heq => List.inj_on_of_nodup_map h.nodup_ids hr hmem heq, fun heq => congrArg _ heq⟩
  rw [entitiesById, honly, List.filter_beq, List.count_eq_one_of_mem h.nodup_ids.of_map hmem]
  rfl

theorem afterAll_entities (m : MemoryStore) (calls : List StoreCall) :
    m.entities <+: (StoreCall.afterAll m calls).entities :=
  List.foldlRecOn (motive := fun m' : MemoryStore => m.entities <+: m'.entities) calls StoreCall.after
    (List.prefix_refl _) fun m' h c _ => h.trans (appended_after m' c).entities

/-- Whatever was called before a batch is saved and whatever is called after it, saving some of its
entities again gives them the ids that they were given, and adds no row. Each of these ids is the id of
one row, which shares the UID or the natural key with the entity. -/
theorem ids_stable (before : List StoreCall) (batch : List Entity) :
    ∃ ids saved, ids.length = batch.length ∧
      (EventStore.saveEntities batch).perform (StoreCall.afterAll empty before) = (.ok ids, saved) ∧
      ∀ calls, let later := StoreCall.afterAll saved calls
        (∀ again, again ⊆ batch.zip ids →
          (EventStore.saveEntities (again.map Prod.fst)).perform later =
            (.ok (again.map Prod.snd), { later with resolved := later.resolved + again.length })) ∧
        ∀ p ∈ batch.zip ids, ∃ row,
          (EventStore.entitiesById [p.2]).perform later = (.ok [row], later) ∧
            (row.uid = p.1.uid ∨ row.key = p.1.key) := by
  have hregular := (regular_empty.afterAll before).saveEntities batch
  have hsaved := findExisting_saveEntities (StoreCall.afterAll empty before) batch
  refine ⟨_, _, length_saveEntities _ batch, rfl, fun calls => ?_⟩
  have hfound := fun p hp =>
    findExisting_mono (afterAll_entities _ calls) (hsaved p hp)
  constructor
  · intro again hsub
    have hagain := saveEntities_of_found fun p hp => hfound p (hsub hp)
    exact congrArg (fun r : List EntityId × MemoryStore => (Except.ok r.1, r.2)) hagain
  · intro p hp
    obtain ⟨row, hrow, hsame⟩ := (hregular.afterAll calls).entitiesById_of_found (hfound p hp)
    exact ⟨row, congrArg (fun rows => (Except.ok rows, _)) hrow, hsame⟩

/-- A claim is known by its UID when a second claim takes its name. It keeps its id. -/
theorem ids_stable_nameTaken :
    let before := [StoreCall.write (.saveEntities [.fresh "a" "u1" .pvc 1])]
    let again := Entity.fresh "b" "u1" .pvc 1
    let later := StoreCall.afterAll empty (before ++
      [.write (.saveEntities [again]), .write (.saveEntities [.fresh "b" "u2" .pvc 1])])
    later.entities.map (fun row => (row.id, row.name, row.uid)) = [(1, "a", "u1"), (2, "b", "u2")] ∧
      (EventStore.saveEntities [again]).perform later =
        (.ok [1], { later with resolved := later.resolved + 1 }) ∧
      ∃ row, (EventStore.entitiesById [1]).perform later = (.ok [row], later) ∧
        (row.uid = again.uid ∨ row.key = again.key) := by
  intro before again later
  obtain ⟨ids, saved, -, hsave, hstable⟩ := ids_stable before [again]
  have hids : [1] = ids := Except.ok.inj (congrArg Prod.fst hsave)
  have hsaved : (StoreCall.afterAll empty (before ++ [.write (.saveEntities [again])])) = saved :=
    congrArg Prod.snd hsave
  subst hids hsaved
  obtain ⟨hagain, hrow⟩ := hstable [.write (.saveEntities [.fresh "b" "u2" .pvc 1])]
  exact ⟨by decide +kernel, hagain [(again, 1)] (List.Subset.refl _),
    hrow (again, 1) List.mem_cons_self⟩

end StorageLifecycle.MemoryStore
