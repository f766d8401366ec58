import StorageLifecycle.Store.Basic

/-!
# Calls of a store

The eleven operations of a store with their arguments, as data: five that write and six that read. What
is said of every sequence of operations is said of a list of calls. A call that fails leaves some
store behind, too.
-/

namespace StorageLifecycle

/-- An operation that writes, with its arguments. -/
inductive StoreWrite where
  | saveEntities (batch : List Entity)
  | saveEvents (batch : List Event)
  | saveCounts (batch : List CountSample)
  | createTestCase (tc : TestCase)
  | finishTestCase (id : TestCaseId) (success : Bool) (now : Instant)
deriving DecidableEq, Repr

/-- An operation that reads, with its arguments. -/
inductive StoreRead where
  | testCase (id : TestCaseId)
  | testCasesOfRun (run : String)
  | entities (id : TestCaseId)
  | entitiesById (ids : List EntityId)
  | events (id : TestCaseId)
  | counts (id : TestCaseId)
deriving DecidableEq, Repr

/-- An operation of a store, with its arguments. -/
inductive StoreCall where
  | write (w : StoreWrite)
  | read (r : StoreRead)
deriving DecidableEq, Repr

variable {σ : Type}

theorem StoreM.perform_map {α β : Type} (f : α → β) (m : StoreM σ α) (s : σ) :
    (f <$> m).perform s = ((m.perform s).1.map f, (m.perform s).2) := by
  cases hrun : m s with
  | mk answer after =>
      have hperform : m.perform s = (answer, after) := hrun
      rw [hperform]
      show ExceptT.map f m s = _
      simp only [ExceptT.map, ExceptT.mk, bind, StateT.bind, hrun]
      cases answer <;> rfl

variable [EventStore σ]

/-- Carries the operation out. The answer lists the ids that entities were given. -/
def StoreWrite.run : StoreWrite → StoreM σ (List EntityId)
  | saveEntities batch => EventStore.saveEntities batch
  | saveEvents batch => (fun _ => []) <$> EventStore.saveEvents batch
  | saveCounts batch => (fun _ => []) <$> EventStore.saveCounts batch
  | createTestCase tc => (fun _ => []) <$> EventStore.createTestCase tc
  | finishTestCase id success now => (fun _ => []) <$> EventStore.finishTestCase id success now

/-- Carries the operation out, without regard to its answer. -/
def StoreRead.run : StoreRead → StoreM σ Unit
  | testCase id => (fun _ => ()) <$> EventStore.testCase id
  | testCasesOfRun run => (fun _ => ()) <$> EventStore.testCasesOfRun run
  | entities id => (fun _ => ()) <$> EventStore.entities id
  | entitiesById ids => (fun _ => ()) <$> EventStore.entitiesById ids
  | events id => (fun _ => ()) <$> EventStore.events id
  | counts id => (fun _ => ()) <$> EventStore.counts id

namespace StoreCall

/-- The store that a call leaves behind, whether it succeeds or fails. -/
def after (s : σ) : StoreCall → σ
  | write w => (w.run.perform s).2
  | read r => (r.run.perform s).2

/-- The store that a sequence of calls leaves behind. -/
def afterAll (s : σ) (calls : List StoreCall) : σ := calls.foldl after s

theorem afterAll_append (s : σ) (calls later : List StoreCall) :
    afterAll s (calls ++ later) = afterAll (afterAll s calls) later :=
  List.foldl_append

theorem afterAll_append_singleton (s : σ) (calls : List StoreCall) (c : StoreCall) :
    afterAll s (calls ++ [c]) = after (afterAll s calls) c :=
  afterAll_append s calls [c]

end StoreCall

end StorageLifecycle
