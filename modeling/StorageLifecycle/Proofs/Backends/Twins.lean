import StorageLifecycle.Proofs.Store.Integrity
import StorageLifecycle.Store.Relational

/-!
# The same, written to two stores

The same operations are carried out on a store in memory and on a relational store. Each entity is
given an id by both of them. What is written later names an entity by the id that it has in memory, and
this id is translated for the relational store.
-/

namespace StorageLifecycle

/-- Runs a computation: what it answers and the store that it leaves behind, or its error. -/
def StoreM.attempt {σ α : Type} (m : StoreM σ α) (s : σ) : Except StoreError (α × σ) :=
  match m.perform s with
  | (.ok a, s') => .ok (a, s')
  | (.error e, _) => .error e

/-- Does the calendar reach the moment? -/
def Instant.OnCalendar (t : Instant) : Prop :=
  Rfc3339.yearInRange (Date.ofDays (t.seconds / 86400)).year = true

instance (t : Instant) : Decidable t.OnCalendar := inferInstanceAs (Decidable (_ = true))

/-- The event, with its entity under another id. -/
def Event.readdress (f : EntityId → EntityId) (e : Event) : Event := { e with entity := f e.entity }

/-! ## What is written -/

namespace StoreWrite

/-- The operation, with the entities that it names under other ids. -/
def readdress (f : EntityId → EntityId) : StoreWrite → StoreWrite
  | saveEvents batch => saveEvents (batch.map (Event.readdress f))
  | w => w

/-- The entities that are saved. -/
def entities : StoreWrite → List Entity
  | saveEntities batch => batch
  | _ => []

/-- How many rows the operation writes at most. -/
def size : StoreWrite → Nat
  | saveEntities batch => batch.length
  | saveEvents batch => batch.length
  | saveCounts batch => batch.length
  | createTestCase _ => 1
  | finishTestCase _ _ _ => 0

/-- How many rows the operations write at most. -/
def sizes : List StoreWrite → Nat
  | [] => 0
  | w :: rest => w.size + sizes rest

/-- The operation is about rows that are there: entities, events and samples are of test cases that were
created, events are of entities that were saved and have new names, and a test case that is closed was
created. The calendar reaches the moments of events and samples, and counts have 32 bits. -/
def Fits (m : MemoryStore) : StoreWrite → Prop
  | saveEntities batch => ∀ e ∈ batch, e.testCase ∈ m.testCases.map (·.id)
  | saveEvents batch =>
    (∀ e ∈ batch, e.testCase ∈ m.testCases.map (·.id) ∧ e.entity ∈ m.entities.map (·.id) ∧
      e.timestamp.OnCalendar ∧ e.name ∉ m.events.map (·.name)) ∧ (batch.map (·.name)).Nodup
  | saveCounts batch => ∀ c ∈ batch, c.testCase ∈ m.testCases.map (·.id) ∧ c.timestamp.OnCalendar ∧
      ∀ n ∈ c.tally.toList, n < Word.bound 32
  | createTestCase _ => True
  | finishTestCase id _ _ => id ∈ m.testCases.map (·.id)

instance (m : MemoryStore) : (w : StoreWrite) → Decidable (w.Fits m)
  | saveEntities batch =>
    inferInstanceAs (Decidable (∀ e ∈ batch, e.testCase ∈ m.testCases.map (·.id)))
  | saveEvents batch => inferInstanceAs (Decidable
      ((∀ e ∈ batch, e.testCase ∈ m.testCases.map (·.id) ∧ e.entity ∈ m.entities.map (·.id) ∧
        e.timestamp.OnCalendar ∧ e.name ∉ m.events.map (·.name)) ∧ (batch.map (·.name)).Nodup))
  | saveCounts batch => inferInstanceAs (Decidable
      (∀ c ∈ batch, c.testCase ∈ m.testCases.map (·.id) ∧ c.timestamp.OnCalendar ∧
        ∀ n ∈ c.tally.toList, n < Word.bound 32))
  | createTestCase _ => inferInstanceAs (Decidable True)
  | finishTestCase id _ _ => inferInstanceAs (Decidable (id ∈ m.testCases.map (·.id)))

/-- The condition holds of each entity of the batch and of the store in memory to which it is saved. -/
def EachSave (P : MemoryStore → Entity → Prop) : MemoryStore → List Entity → Prop
  | _, [] => True
  | m, e :: rest => P m e ∧ EachSave P (m.saveEntity e).2 rest

instance (P : MemoryStore → Entity → Prop) [∀ m e, Decidable (P m e)] :
    (m : MemoryStore) → (batch : List Entity) → Decidable (EachSave P m batch)
  | _, [] => inferInstanceAs (Decidable True)
  | m, e :: rest =>
    have := instDecidableEachSave P (m.saveEntity e).2 rest
    inferInstanceAs (Decidable (P m e ∧ EachSave P (m.saveEntity e).2 rest))

/-- The condition holds of each entity that is saved. -/
def Saves (P : MemoryStore → Entity → Prop) (m : MemoryStore) (w : StoreWrite) : Prop :=
  EachSave P m w.entities

instance (P : MemoryStore → Entity → Prop) [∀ m e, Decidable (P m e)] (m : MemoryStore)
    (w : StoreWrite) : Decidable (w.Saves P m) :=
  inferInstanceAs (Decidable (EachSave P m w.entities))

/-- The condition holds of each operation and of the store in memory on which it is carried out. -/
def Along (P : MemoryStore → StoreWrite → Prop) : MemoryStore → List StoreWrite → Prop
  | _, [] => True
  | m, w :: rest => P m w ∧ Along P (w.run.perform m).2 rest

instance (P : MemoryStore → StoreWrite → Prop) [∀ m w, Decidable (P m w)] :
    (m : MemoryStore) → (ws : List StoreWrite) → Decidable (Along P m ws)
  | _, [] => inferInstanceAs (Decidable True)
  | m, w :: rest =>
    have := instDecidableAlong P (w.run.perform m).2 rest
    inferInstanceAs (Decidable (P m w ∧ Along P (w.run.perform m).2 rest))

end StoreWrite

/-- If a row has the natural key of the entity, then no older one has its UID. -/
def Unambiguous (m : MemoryStore) (e : Entity) : Prop :=
  ∀ row ∈ m.entities, row.key = e.key → m.findExisting e = some row.id

instance (m : MemoryStore) (e : Entity) : Decidable (Unambiguous m e) :=
  inferInstanceAs (Decidable (∀ row ∈ m.entities, row.key = e.key → m.findExisting e = some row.id))

/-- The entity matches at most one row. -/
def AtMostOne (m : MemoryStore) (e : Entity) : Prop :=
  (m.entities.filter fun row => row.sameAs e).length ≤ 1

instance (m : MemoryStore) (e : Entity) : Decidable (AtMostOne m e) :=
  inferInstanceAs (Decidable ((m.entities.filter fun row => row.sameAs e).length ≤ 1))

/-! ## Two stores -/

/-- The id that goes with an id, in a list of ids that were given together. The first pair counts. -/
def translateBy (ids : List (EntityId × EntityId)) (id : EntityId) : EntityId :=
  (ids.lookup id).getD id

/-- Two stores to which the same was written, and the ids that they gave to the entities that were
saved: first the one in memory, then the one in the relational store. -/
structure Twins where
  memory : MemoryStore
  relational : RelationalStore
  ids : List (EntityId × EntityId)
deriving DecidableEq, Repr

namespace Twins

def empty : Twins := ⟨.empty, .empty, []⟩

/-- The id in the relational store of the entity with an id in memory. -/
def translate (t : Twins) : EntityId → EntityId := translateBy t.ids

/-- Carries an operation out on both stores. -/
def step (t : Twins) (w : StoreWrite) : Except StoreError Twins := do
  let (ids, memory) ← w.run.attempt t.memory
  let (ids', relational) ← (w.readdress t.translate).run.attempt t.relational
  return ⟨memory, relational, t.ids ++ ids.zip ids'⟩

/-- Carries operations out on both stores, one after the other. -/
def run (t : Twins) (ws : List StoreWrite) : Except StoreError Twins := ws.foldlM step t

end Twins

end StorageLifecycle
