import StorageLifecycle.Event
import StorageLifecycle.TestCase
import StorageLifecycle.Failure

/-!
# Stores

A store keeps test cases, entities, events and count samples. `EventStore` names the eleven
operations that the observers and the collector use. Each is a computation on the state of the
store that may fail; also a failed one says which state it leaves behind.
-/

namespace StorageLifecycle

/-- A computation on a store. The state it leaves behind counts also when it fails. -/
abbrev StoreM (σ : Type) := ExceptT StoreError (StateM σ)

namespace StoreM

variable {σ α : Type}

/-- Runs a computation: its outcome, and the store it leaves behind. -/
def perform (m : StoreM σ α) (s : σ) : Except StoreError α × σ := m s

/-- A computation that reads the store and leaves it as it is. -/
def reading (f : σ → Except StoreError α) : StoreM σ α := fun s => (f s, s)

/-- A computation that changes the store when it succeeds, and leaves it as it is when it fails. -/
def writing (f : σ → Except StoreError (α × σ)) : StoreM σ α := fun s =>
  match f s with
  | .ok (a, s') => (.ok a, s')
  | .error e => (.error e, s)

end StoreM

/-- The operations of a store. Entities and events are saved in batches. -/
class EventStore (σ : Type) where
  /-- Gives each entity the id of its row, in the order of the batch. An entity that is stored
  already gets the id of the stored row. -/
  saveEntities : List Entity → StoreM σ (List EntityId)
  /-- Appends the whole batch or nothing. -/
  saveEvents : List Event → StoreM σ Unit
  /-- Appends the whole batch or nothing. -/
  saveCounts : List CountSample → StoreM σ Unit
  createTestCase : TestCase → StoreM σ TestCaseId
  /-- Closes a test case at a moment, with its outcome. -/
  finishTestCase : TestCaseId → Bool → Instant → StoreM σ Unit
  testCase : TestCaseId → StoreM σ (Option TestCase)
  /-- The test cases of a run, by start and then by id. -/
  testCasesOfRun : String → StoreM σ (List TestCase)
  entities : TestCaseId → StoreM σ (List Entity)
  entitiesById : List EntityId → StoreM σ (List Entity)
  events : TestCaseId → StoreM σ (List Event)
  counts : TestCaseId → StoreM σ (List CountSample)
  /-- How many saved entities turned out to be stored already, up to now. -/
  resolved : σ → Nat

/-- The text of the error for a test case that is not there. -/
def unknownTestCase (id : TestCaseId) : StoreError := .notFound ("test case " ++ toString id)

end StorageLifecycle
