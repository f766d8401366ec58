import StorageLifecycle.Store.Memory
import StorageLifecycle.Store.Relational

/-!
# The choice of a store

The configuration names one of two stores.
-/

namespace StorageLifecycle

inductive Backend where
  | memory (s : MemoryStore)
  | relational (s : RelationalStore)
deriving DecidableEq, Repr

namespace Backend

/-- The name that selects the store in the configuration. -/
def name : Backend → String
  | memory _ => "memory"
  | relational _ => "sqlite"

/-- An empty store of the kind that a name selects. -/
def ofName (name : String) : Except Failure Backend :=
  match name with
  | "memory" => .ok (memory .empty)
  | "sqlite" => .ok (relational .empty)
  | other => .error (.config (.invalidValue "store.backend" ("unknown backend: " ++ other)))

/-- Runs a computation that every store offers on the one that was chosen. -/
def choose {α : Type} (onMemory : StoreM MemoryStore α) (onRelational : StoreM RelationalStore α) :
    StoreM Backend α := fun
  | memory s => let (r, s) := onMemory s; (r, memory s)
  | relational s => let (r, s) := onRelational s; (r, relational s)

instance : EventStore Backend where
  saveEntities batch := choose (EventStore.saveEntities batch) (EventStore.saveEntities batch)
  saveEvents batch := choose (EventStore.saveEvents batch) (EventStore.saveEvents batch)
  saveCounts batch := choose (EventStore.saveCounts batch) (EventStore.saveCounts batch)
  createTestCase tc := choose (EventStore.createTestCase tc) (EventStore.createTestCase tc)
  finishTestCase id success now :=
    choose (EventStore.finishTestCase id success now) (EventStore.finishTestCase id success now)
  testCase id := choose (EventStore.testCase id) (EventStore.testCase id)
  testCasesOfRun run := choose (EventStore.testCasesOfRun run) (EventStore.testCasesOfRun run)
  entities id := choose (EventStore.entities id) (EventStore.entities id)
  entitiesById ids := choose (EventStore.entitiesById ids) (EventStore.entitiesById ids)
  events id := choose (EventStore.events id) (EventStore.events id)
  counts id := choose (EventStore.counts id) (EventStore.counts id)
  resolved
    | memory s => EventStore.resolved s
    | relational s => EventStore.resolved s

end Backend

end StorageLifecycle
