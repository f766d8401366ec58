import StorageLifecycle.Proofs.Backends.Twins
import StorageLifecycle.Proofs.Store.Filling

/-!
# Stores that match

A relational store matches a store in memory when its tables have the same rows in the same order. Rows of
test cases have the same ids in both. Rows of entities ascend, and each has the id into which the id in
memory is translated. Events name entities by translated ids, and moments are whole microseconds.

What matching stores may differ in is the row that an entity is found to have. In memory the oldest row
counts that shares either key, in the relational store the one with the natural key comes first.
-/

namespace StorageLifecycle

open Relational

/-! ## Translating ids -/

section

variable {ids : List (EntityId × EntityId)} {i j : EntityId}

theorem lookup_eq_none_iff : ids.lookup i = none ↔ i ∉ ids.map Prod.fst := by
  rw [List.lookup_eq_none_iff, List.mem_map, not_exists]
  refine forall_congr' fun p => ?_
  rw [bne_iff_ne, not_and]
  exact ⟨fun h hp heq => h hp heq.symm, fun h hp heq => h hp heq.symm⟩

/-- An id goes on being translated in the same way. -/
theorem translateBy_append (hi : i ∈ ids.map Prod.fst) (added : List (EntityId × EntityId)) :
    translateBy (ids ++ added) i = translateBy ids i := by
  cases hfind : ids.lookup i with
  | none => exact absurd hi (lookup_eq_none_iff.mp hfind)
  | some k =>
      unfold translateBy
      rw [List.lookup_append, hfind]
      rfl

/-- A new id is translated into the one that was given along with it. -/
theorem translateBy_new (hi : i ∉ ids.map Prod.fst) : translateBy (ids ++ [(i, j)]) i = j := by
  unfold translateBy
  rw [List.lookup_append, lookup_eq_none_iff.mpr hi, Option.none_or, List.lookup_cons_self]
  rfl

end

/-! ## Tables with the same rows -/

/-- The row of an entity under the id into which its id is translated. -/
def Relational.EntityRow.translated (f : EntityId → EntityId) (e : Entity) : EntityRow :=
  .ofEntity (f e.id) e

/-- The row of an event whose entity is under the id into which its id is translated. -/
def Relational.EventRow.translated (f : EntityId → EntityId) (e : Event) : EventRow :=
  .ofEvent (e.id.getD 0) (e.readdress f)

/-- The table has rows with the ids of the test cases, and each can be read. -/
structure SameTestCases (tcs : List TestCase) (t : Table TestCaseRow) : Prop where
  counted : t.Counted TestCaseRow.id tcs.length
  ids : t.rows.map TestCaseRow.id = tcs.map (·.id)
  legible : ∀ r ∈ t.rows, ∃ tc, r.read = .ok tc

/-- The table has the rows of the entities under translated ids, and ids were given for these only. -/
structure SameEntities (ids : List (EntityId × EntityId)) (entities : List Entity)
    (t : Table EntityRow) : Prop where
  counted : t.Counted EntityRow.id ids.length
  rows : t.rows = entities.map (EntityRow.translated (translateBy ids))
  given : ∀ i, i ∈ ids.map Prod.fst ↔ i ∈ entities.map (·.id)

/-- The table has the rows of the events. -/
structure SameEvents (f : EntityId → EntityId) (events : List Event) (t : Table EventRow) :
    Prop where
  counted : t.Counted EventRow.id events.length
  rows : t.rows = events.map (EventRow.translated f)
  dated : ∀ e ∈ events, e.timestamp.OnCalendar

/-- The table has the rows of the samples. -/
structure SameCounts (counts : List CountSample) (t : Table CountRow) : Prop where
  counted : t.Counted CountRow.id counts.length
  rows : t.rows.map CountRow.unnumbered = counts.map (CountRow.ofSample 0)
  fit : ∀ c ∈ counts, c.timestamp.OnCalendar ∧ ∀ n ∈ c.tally.toList, n < Word.bound 32

/-- Two stores with the same contents. -/
structure Twins.Matching (t : Twins) : Prop where
  regular : t.memory.Regular
  testCases : SameTestCases t.memory.testCases t.relational.testCases
  entities : SameEntities t.ids t.memory.entities t.relational.entities
  events : SameEvents t.translate t.memory.events t.relational.events
  counts : SameCounts t.memory.counts t.relational.counts

theorem Twins.matching_empty : Twins.empty.Matching where
  regular := MemoryStore.regular_empty
  testCases := ⟨Table.counted_nil _, rfl, List.forall_mem_nil _⟩
  entities := ⟨Table.counted_nil _, rfl, fun _ => Iff.rfl⟩
  events := ⟨Table.counted_nil _, rfl, List.forall_mem_nil _⟩
  counts := ⟨Table.counted_nil _, rfl, List.forall_mem_nil _⟩

section

variable {ids : List (EntityId × EntityId)} {entities : List Entity} {t : Table EntityRow}

/-- Translated ids ascend. -/
theorem SameEntities.ascending (h : SameEntities ids entities t) :
    (entities.map fun e => translateBy ids e.id).Pairwise (· < ·) := by
  have hrows := h.counted.ascending
  rw [h.rows, List.map_map] at hrows
  exact hrows

theorem SameEntities.nodup (h : SameEntities ids entities t) :
    (entities.map fun e => translateBy ids e.id).Nodup :=
  h.ascending.imp Int.ne_of_lt

/-- Different entities have different translated ids. -/
theorem SameEntities.injOn (h : SameEntities ids entities t) {i j : EntityId}
    (hi : i ∈ entities.map (·.id)) (hj : j ∈ entities.map (·.id))
    (heq : translateBy ids i = translateBy ids j) : i = j := by
  obtain ⟨a, ha, rfl⟩ := List.mem_map.mp hi
  obtain ⟨b, hb, rfl⟩ := List.mem_map.mp hj
  rw [List.inj_on_of_nodup_map h.nodup ha hb heq]

end

/-! ## The row that an entity has -/

theorem EntityType.label_inj {a b : EntityType} : a.label = b.label ↔ a = b :=
  ⟨fun h => by rw [← ofLabel_label a, h, ofLabel_label], congrArg _⟩

theorem find?_congr {α : Type} {p q : α → Bool} {l : List α} (h : ∀ a ∈ l, p a = q a) :
    l.find? p = l.find? q := by
  rw [← List.head?_filter, List.filter_congr h, List.head?_filter]

namespace RelationalStore

theorem keyMatches_ofEntity (e x : Entity) (i : EntityId) :
    keyMatches e (.ofEntity i x) = x.sameKey e := by
  rw [Bool.eq_iff_iff]
  simp [keyMatches, EntityRow.ofEntity, Entity.sameKey, EntityType.label_inj]

theorem uidMatches_ofEntity (e x : Entity) (i : EntityId) :
    uidMatches e (.ofEntity i x) = (x.uid == e.uid) := by
  rw [Bool.eq_iff_iff]
  simp [uidMatches, EntityRow.ofEntity]

/-- In a table with translated ids an entity has the row with its natural key, or else the one with its
UID. -/
theorem findExisting_translated {r : RelationalStore} {entities : List Entity}
    {f : EntityId → EntityId} (hrows : r.entities.rows = entities.map (EntityRow.translated f))
    (e : Entity) : r.findExisting e =
      ((entities.find? fun x => x.sameKey e).or (entities.find? fun x => x.uid == e.uid)).map
        fun x => f x.id := by
  have hkey : keyMatches e ∘ EntityRow.translated f = fun x => x.sameKey e :=
    funext fun x => keyMatches_ofEntity e x _
  have huid : uidMatches e ∘ EntityRow.translated f = fun x => x.uid == e.uid :=
    funext fun x => uidMatches_ofEntity e x _
  unfold findExisting
  rw [hrows, List.find?_map, List.find?_map, hkey, huid]
  cases entities.find? fun x => x.sameKey e with
  | some x => rfl
  | none => exact Option.map_map _ _ _

end RelationalStore

section

variable {m : MemoryStore} {r : RelationalStore} {ids : List (EntityId × EntityId)} {e : Entity}

/-- An entity without a row in memory has none in the relational store. -/
theorem SameEntities.findExisting_of_none (h : SameEntities ids m.entities r.entities)
    (hfind : m.findExisting e = none) : r.findExisting e = none := by
  have hnone := MemoryStore.findExisting_eq_none_iff.mp hfind
  have hkey : (m.entities.find? fun x => x.sameKey e) = none :=
    List.find?_eq_none.mpr fun x hx hsame => (hnone x hx).1 (Entity.sameKey_iff.mp hsame)
  have huid : (m.entities.find? fun x => x.uid == e.uid) = none :=
    List.find?_eq_none.mpr fun x hx hsame => (hnone x hx).2 (eq_of_beq hsame)
  rw [RelationalStore.findExisting_translated h.rows, hkey, huid]
  rfl

/-- An entity with a row in memory has one in the relational store. They are the same row if and only if
the entity is not ambiguous. -/
theorem SameEntities.findExisting_of_some (h : SameEntities ids m.entities r.entities)
    (hregular : m.Regular) {i : EntityId} (hfind : m.findExisting e = some i) :
    ∃ j, r.findExisting e = some j ∧ (j = translateBy ids i ↔ Unambiguous m e) := by
  obtain ⟨oldest, holdest, rfl⟩ := Option.map_eq_some_iff.mp hfind
  have hmem := List.mem_of_find?_eq_some holdest
  have hsame : oldest.sameAs e = true :=
    List.find?_some (p := fun x : Entity => x.sameAs e) holdest
  rw [RelationalStore.findExisting_translated h.rows]
  cases hkey : m.entities.find? fun x => x.sameKey e with
  | some row =>
      have hrow := List.mem_of_find?_eq_some hkey
      have hrowKey : row.key = e.key :=
        Entity.sameKey_iff.mp (List.find?_some (p := fun x : Entity => x.sameKey e) hkey)
      refine ⟨translateBy ids row.id, rfl, ?_⟩
      constructor
      · intro heq x hx hxKey
        -- The natural key is a key: there is one row with it.
        rw [List.inj_on_of_nodup_map hregular.keys hx hrow (hxKey.trans hrowKey.symm), hfind]
        exact congrArg some (h.injOn (List.mem_map_of_mem hrow) (List.mem_map_of_mem hmem) heq).symm
      · intro hclear
        have hid : oldest.id = row.id :=
          Option.some.inj (hfind.symm.trans (hclear row hrow hrowKey))
        rw [hid]
  | none =>
      have hnoKey : ∀ x ∈ m.entities, ¬x.sameKey e = true := List.find?_eq_none.mp hkey
      have huid : (m.entities.find? fun x => x.uid == e.uid) = some oldest := by
        rw [← holdest]
        refine find?_congr fun x hx => ?_
        rw [Entity.sameAs, Bool.eq_false_iff.mpr (hnoKey x hx), Bool.false_or]
      rw [huid]
      refine ⟨translateBy ids oldest.id, rfl, iff_of_true rfl ?_⟩
      exact fun x hx hxKey => absurd (Entity.sameKey_iff.mpr hxKey) (hnoKey x hx)

end

end StorageLifecycle
