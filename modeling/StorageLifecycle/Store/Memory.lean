import StorageLifecycle.Store.Basic

/-!
# The store in memory

Rows are kept in the order in which they were saved, and ids are handed out from counters that a
rejected batch does not move. An entity is the same as a stored one if they share the natural key
or the UID, and the oldest such row wins. A batch of events is checked as a whole before any of it
is stored.
-/

namespace StorageLifecycle

structure MemoryStore where
  lastTestCase : TestCaseId
  lastEntity : EntityId
  lastEvent : Int
  testCases : List TestCase
  entities : List Entity
  events : List Event
  counts : List CountSample
  /-- How many saved entities turned out to be stored already. -/
  resolved : Nat
deriving DecidableEq, Repr

namespace MemoryStore

def empty : MemoryStore := ⟨0, 0, 0, [], [], [], [], 0⟩

/-! ## Entities -/

/-- The id of the oldest stored row that is the same as the entity. -/
def findExisting (s : MemoryStore) (e : Entity) : Option EntityId :=
  (s.entities.find? fun row => row.sameAs e).map (·.id)

/-- The id of the entity's row, which is made if there is none. -/
def saveEntity (s : MemoryStore) (e : Entity) : EntityId × MemoryStore :=
  match s.findExisting e with
  | some id => (id, { s with resolved := s.resolved + 1 })
  | none =>
    let id := s.lastEntity + 1
    (id, { s with lastEntity := id, entities := s.entities ++ [{ e with id := id }] })

/-- Saves a batch from left to right; a later entity sees the rows of the earlier ones. -/
def saveEntities (s : MemoryStore) : List Entity → List EntityId × MemoryStore
  | [] => ([], s)
  | e :: rest =>
    let (id, s) := s.saveEntity e
    let (ids, s) := s.saveEntities rest
    (id :: ids, s)

/-! ## Events -/

/-- The first fault of a batch of events, given the names in use: an event of an entity that is
not stored, or a name that is in use. -/
def checkEvents (s : MemoryStore) (names : List String) : List Event → Except StoreError Unit
  | [] => .ok ()
  | e :: rest =>
    if !(s.entities.any fun row => row.id == e.entity) then
      .error (.notFound ("entity " ++ toString e.entity ++ " referenced by " ++ e.name))
    else if names.contains e.name then .error (.duplicate e.name)
    else s.checkEvents (e.name :: names) rest

/-- Stores events that have been checked, with the following ids. -/
def appendEvents (s : MemoryStore) : List Event → MemoryStore
  | [] => s
  | e :: rest =>
    let id := s.lastEvent + 1
    appendEvents { s with lastEvent := id, events := s.events ++ [{ e with id := some id }] } rest

/-- Stores the whole batch, or nothing if a check fails. -/
def saveEvents (s : MemoryStore) (batch : List Event) : Except StoreError MemoryStore :=
  match s.checkEvents (s.events.map (·.name)) batch with
  | .ok () => .ok (s.appendEvents batch)
  | .error e => .error e

def saveCounts (s : MemoryStore) (batch : List CountSample) : MemoryStore :=
  { s with counts := s.counts ++ batch }

/-! ## Test cases -/

/-- Keeps the test case as given, under the next id. -/
def createTestCase (s : MemoryStore) (tc : TestCase) : TestCaseId × MemoryStore :=
  let id := s.lastTestCase + 1
  (id, { s with lastTestCase := id, testCases := s.testCases ++ [{ tc with id := id }] })

/-- Changes the first row with the id, if there is one. -/
def closeFirst (id : TestCaseId) (success : Bool) (now : Instant) :
    List TestCase → Option (List TestCase)
  | [] => none
  | tc :: rest =>
    if tc.id = id then some ({ tc with endedAt := some now, success := some success } :: rest)
    else (closeFirst id success now rest).map (tc :: ·)

def finishTestCase (s : MemoryStore) (id : TestCaseId) (success : Bool) (now : Instant) :
    Except StoreError MemoryStore :=
  match closeFirst id success now s.testCases with
  | some testCases => .ok { s with testCases }
  | none => .error (unknownTestCase id)

/-! ## Reading -/

def testCase (s : MemoryStore) (id : TestCaseId) : Option TestCase :=
  s.testCases.find? fun tc => tc.id == id

/-- Earlier starts first; on a tie the smaller id. -/
def startsBefore (a b : TestCase) : Bool :=
  a.startedAt < b.startedAt || (a.startedAt == b.startedAt && decide (a.id ≤ b.id))

def testCasesOfRun (s : MemoryStore) (run : String) : List TestCase :=
  (s.testCases.filter fun tc => tc.runName == run).mergeSort startsBefore

def entitiesOf (s : MemoryStore) (id : TestCaseId) : List Entity :=
  s.entities.filter fun e => e.testCase == id

/-- The rows with these ids in stored order, each once. -/
def entitiesById (s : MemoryStore) (ids : List EntityId) : List Entity :=
  s.entities.filter fun e => ids.contains e.id

def eventsOf (s : MemoryStore) (id : TestCaseId) : List Event :=
  s.events.filter fun e => e.testCase == id

def countsOf (s : MemoryStore) (id : TestCaseId) : List CountSample :=
  s.counts.filter fun c => c.testCase == id

instance : EventStore MemoryStore where
  saveEntities batch := .writing fun s => .ok (s.saveEntities batch)
  saveEvents batch := .writing fun s => (s.saveEvents batch).map ((), ·)
  saveCounts batch := .writing fun s => .ok ((), s.saveCounts batch)
  createTestCase tc := .writing fun s => .ok (s.createTestCase tc)
  finishTestCase id success now := .writing fun s => (s.finishTestCase id success now).map ((), ·)
  testCase id := .reading fun s => .ok (s.testCase id)
  testCasesOfRun run := .reading fun s => .ok (s.testCasesOfRun run)
  entities id := .reading fun s => .ok (s.entitiesOf id)
  entitiesById ids := .reading fun s => .ok (s.entitiesById ids)
  events id := .reading fun s => .ok (s.eventsOf id)
  counts id := .reading fun s => .ok (s.countsOf id)
  resolved s := s.resolved

end MemoryStore

end StorageLifecycle
