import StorageLifecycle.Time.Rfc3339
import StorageLifecycle.Store.Basic
import StorageLifecycle.Store.Cell

/-!
# The relational store

Four tables with unique and foreign keys. Rows are made of cells, so a row that someone else has
overwritten is read as far as it can be. Moments are stored as whole microseconds, rounded down.
Row ids are handed out in ascending order and are never used again; an insert that a unique key
turns into nothing uses one up as well. A batch runs in a transaction: if one of its rows is
refused, none of them is kept.
-/

namespace StorageLifecycle

namespace Relational

structure TestCaseRow where
  id : Int
  name : Cell
  runName : Cell
  startedAt : Cell
  endedAt : Cell
  success : Cell
deriving DecidableEq, Repr

structure EntityRow where
  id : Int
  name : Cell
  uid : Cell
  type : Cell
  testCase : Cell
deriving DecidableEq, Repr

structure EventRow where
  id : Int
  name : Cell
  testCase : Cell
  entity : Cell
  type : Cell
  timestamp : Cell
deriving DecidableEq, Repr

structure CountRow where
  id : Int
  testCase : Cell
  timestamp : Cell
  podsCreating : Cell
  podsReady : Cell
  podsTerminating : Cell
  pvcCreating : Cell
  pvcBound : Cell
  pvcTerminating : Cell
deriving DecidableEq, Repr

/-- A table: its rows in ascending order of ids, and the greatest id handed out so far. -/
structure Table (ρ : Type) where
  rows : List ρ
  last : Int
deriving DecidableEq, Repr

/-! ## Row forms -/

/-- A microsecond count as a moment, if the calendar reaches it. -/
def moment? (micros : Int) : Option Instant :=
  let t := Instant.ofMicros micros
  if Rfc3339.yearInRange (Date.ofDays (t.seconds / 86400)).year then some t else none

def moment (micros : Int) : Except StoreError Instant :=
  match moment? micros with
  | some t => .ok t
  | none => .error (.query ("timestamp out of range: " ++ toString micros))

def EntityRow.ofEntity (id : Int) (e : Entity) : EntityRow :=
  ⟨id, .text e.name, .text e.uid, .text e.type.label, .integer e.testCase⟩

def EntityRow.read (r : EntityRow) : Except StoreError Entity := do
  let type ← r.type.readText 3 "entity_type"
  let name ← r.name.readText 1 "name"
  let uid ← r.uid.readText 2 "k8s_uid"
  let testCase ← r.testCase.readInt 4 "tc_id"
  return ⟨r.id, name, uid, .ofLabel type, testCase⟩

def EventRow.ofEvent (id : Int) (e : Event) : EventRow :=
  ⟨id, .text e.name, .integer e.testCase, .integer e.entity, .text e.type.label,
    .integer e.timestamp.micros⟩

def EventRow.read (r : EventRow) : Except StoreError Event := do
  let name ← r.name.readText 1 "name"
  let testCase ← r.testCase.readInt 2 "tc_id"
  let entity ← r.entity.readInt 3 "entity_id"
  let label ← r.type.readText 4 "event_type"
  let micros ← r.timestamp.readInt 5 "timestamp"
  match EventType.ofLabel label with
  | none => .error (.query ("event " ++ name ++ ": unknown event type: " ++ label))
  | some type => return ⟨some r.id, name, testCase, entity, type, ← moment micros⟩

def CountRow.ofSample (id : Int) (c : CountSample) : CountRow :=
  ⟨id, .integer c.testCase, .integer c.timestamp.micros, .integer c.tally.podsCreating,
    .integer c.tally.podsReady, .integer c.tally.podsTerminating, .integer c.tally.pvcCreating,
    .integer c.tally.pvcBound, .integer c.tally.pvcTerminating⟩

def CountRow.read (r : CountRow) : Except StoreError CountSample := do
  let testCase ← r.testCase.readInt 0 "tc_id"
  let micros ← r.timestamp.readInt 1 "timestamp"
  let podsCreating ← r.podsCreating.readCount 2 "pods_creating"
  let podsReady ← r.podsReady.readCount 3 "pods_ready"
  let podsTerminating ← r.podsTerminating.readCount 4 "pods_terminating"
  let pvcCreating ← r.pvcCreating.readCount 5 "pvc_creating"
  let pvcBound ← r.pvcBound.readCount 6 "pvc_bound"
  let pvcTerminating ← r.pvcTerminating.readCount 7 "pvc_terminating"
  return ⟨testCase, ← moment micros,
    ⟨podsCreating, podsReady, podsTerminating, pvcCreating, pvcBound, pvcTerminating⟩⟩

/-- An open test case: an end and an outcome are not stored with it. -/
def TestCaseRow.ofTestCase (id : Int) (tc : TestCase) : TestCaseRow :=
  ⟨id, .text tc.name, .text tc.runName, .integer tc.startedAt.micros, .null, .null⟩

/-- A start that the calendar does not reach reads as the epoch, such an end as none. -/
def TestCaseRow.read (r : TestCaseRow) : Except StoreError TestCase := do
  let started ← r.startedAt.readInt 3 "started_at"
  let ended ← r.endedAt.readInt? 4 "ended_at"
  let name ← r.name.readText 1 "name"
  let runName ← r.runName.readText 2 "run_name"
  let success ← r.success.readBool? 5 "success"
  return ⟨r.id, name, runName, (moment? started).getD .epoch, ended.bind moment?, success⟩

/-! ## Ids -/

/-- The error of a table that has used up its ids. -/
def full : StoreError := .query "database or disk is full"

/-- The next id of a table: above all handed out and all in use. Ids are signed words. -/
def Table.next {ρ : Type} (t : Table ρ) (idOf : ρ → Int) : Except StoreError Int :=
  let id := (t.rows.map idOf).foldl max t.last + 1
  if id < Word.half 64 then .ok id else .error full

/-- Puts a row made for an id at the end. -/
def Table.push {ρ : Type} (t : Table ρ) (id : Int) (row : ρ) : Table ρ := ⟨t.rows ++ [row], id⟩

/-- Uses up an id without a row. -/
def Table.skip {ρ : Type} (t : Table ρ) (id : Int) : Table ρ := { t with last := id }

end Relational

open Relational

structure RelationalStore where
  testCases : Table TestCaseRow
  entities : Table EntityRow
  events : Table EventRow
  counts : Table CountRow
  /-- How many saved entities turned out to be stored already. -/
  resolved : Nat
deriving DecidableEq, Repr

namespace RelationalStore

def empty : RelationalStore := ⟨⟨[], 0⟩, ⟨[], 0⟩, ⟨[], 0⟩, ⟨[], 0⟩, 0⟩

/-- The error of a row that points to a row that is not there. -/
def foreignKeyText : String := "FOREIGN KEY constraint failed"

def hasTestCase (s : RelationalStore) (id : Int) : Bool := s.testCases.rows.any fun r => r.id == id

def hasEntity (s : RelationalStore) (id : Int) : Bool := s.entities.rows.any fun r => r.id == id

/-! ## Entities -/

/-- Has the row the natural key of the entity? -/
def keyMatches (e : Entity) (r : EntityRow) : Bool :=
  r.type == .text e.type.label && r.name == .text e.name && r.testCase == .integer e.testCase

def uidMatches (e : Entity) (r : EntityRow) : Bool := r.uid == .text e.uid

/-- Has the row a unique key of the entity? -/
def conflicts (e : Entity) (r : EntityRow) : Bool := keyMatches e r || uidMatches e r

/-- The statement that inserts an entity and does nothing on a conflict: the id of the new row, if
there is one. A row that is not inserted is not checked against the test cases. -/
def insertOrIgnore (s : RelationalStore) (e : Entity) :
    Except StoreError (Option EntityId × RelationalStore) := do
  let next ← s.entities.next EntityRow.id
  if s.entities.rows.any (conflicts e) then
    return (none, { s with entities := s.entities.skip next })
  else if s.hasTestCase e.testCase then
    return (some next, { s with entities := s.entities.push next (.ofEntity next e) })
  else throw (.query foreignKeyText)

/-- The statement that looks for the row an entity conflicts with: the one with its natural key,
else the one with its UID. -/
def findExisting (s : RelationalStore) (e : Entity) : Option EntityId :=
  match s.entities.rows.find? (keyMatches e) with
  | some r => some r.id
  | none => (s.entities.rows.find? (uidMatches e)).map (·.id)

/-- The error of a query for one row that finds none. -/
def noRows : StoreError := .query "Query returned no rows"

/-- The id of the entity's row: of the one that is inserted, else of the one that is looked up. -/
def insertEntity (s : RelationalStore) (e : Entity) :
    Except StoreError (EntityId × RelationalStore) := do
  match ← s.insertOrIgnore e with
  | (some id, s) => return (id, s)
  | (none, s) =>
    match s.findExisting e with
    | some id => return (id, { s with resolved := s.resolved + 1 })
    | none => throw noRows

/-- Inserts a batch from left to right, up to the first refusal: the ids or the error, and the
store at that point. -/
def insertEntities (s : RelationalStore) :
    List Entity → Except StoreError (List EntityId) × RelationalStore
  | [] => (.ok [], s)
  | e :: rest =>
    match s.insertEntity e with
    | .error err => (.error err, s)
    | .ok (id, s) =>
      let (ids, s) := s.insertEntities rest
      (ids.map (id :: ·), s)

/-- Saves a batch as one transaction. The count of entities found again is no part of it. -/
def saveEntities (s : RelationalStore) (batch : List Entity) :
    Except StoreError (List EntityId) × RelationalStore :=
  match s.insertEntities batch with
  | (.ok ids, s') => (.ok ids, s')
  | (.error e, s') => (.error e, { s with resolved := s'.resolved })

/-! ## Events and counts -/

def insertEvent (s : RelationalStore) (e : Event) : Except StoreError RelationalStore := do
  let id ← s.events.next EventRow.id
  if s.events.rows.any fun r => r.name == .text e.name then throw (.duplicate e.name)
  else if s.hasTestCase e.testCase && s.hasEntity e.entity then
    return { s with events := s.events.push id (.ofEvent id e) }
  else throw (.notFound (e.name ++ ": " ++ foreignKeyText))

def insertCount (s : RelationalStore) (c : CountSample) : Except StoreError RelationalStore := do
  let id ← s.counts.next CountRow.id
  if s.hasTestCase c.testCase then return { s with counts := s.counts.push id (.ofSample id c) }
  else throw (.query foreignKeyText)

/-- Saves a batch as one transaction. -/
def saveEvents (s : RelationalStore) (batch : List Event) : Except StoreError RelationalStore :=
  batch.foldlM insertEvent s

/-- Saves a batch as one transaction. -/
def saveCounts (s : RelationalStore) (batch : List CountSample) :
    Except StoreError RelationalStore :=
  batch.foldlM insertCount s

/-! ## Test cases -/

/-- Stores a test case as open. -/
def createTestCase (s : RelationalStore) (tc : TestCase) :
    Except StoreError (TestCaseId × RelationalStore) := do
  let id ← s.testCases.next TestCaseRow.id
  return (id, { s with testCases := s.testCases.push id (.ofTestCase id tc) })

def finishTestCase (s : RelationalStore) (id : TestCaseId) (success : Bool) (now : Instant) :
    Except StoreError RelationalStore :=
  if s.hasTestCase id then
    let close (r : TestCaseRow) : TestCaseRow :=
      if r.id = id then
        { r with endedAt := .integer now.micros, success := .integer (if success then 1 else 0) }
      else r
    .ok { s with testCases := { s.testCases with rows := s.testCases.rows.map close } }
  else .error (unknownTestCase id)

/-! ## Reading -/

def testCase (s : RelationalStore) (id : TestCaseId) : Except StoreError (Option TestCase) :=
  match s.testCases.rows.find? fun r => r.id == id with
  | some r => r.read.map some
  | none => .ok none

/-- Earlier starts first; on a tie the smaller id. -/
def startsBefore (a b : TestCaseRow) : Bool :=
  a.startedAt.le b.startedAt && (!b.startedAt.le a.startedAt || decide (a.id ≤ b.id))

def testCasesOfRun (s : RelationalStore) (run : String) : Except StoreError (List TestCase) :=
  ((s.testCases.rows.filter fun r => r.runName == .text run).mergeSort startsBefore).mapM
    TestCaseRow.read

def entitiesOf (s : RelationalStore) (id : TestCaseId) : Except StoreError (List Entity) :=
  (s.entities.rows.filter fun r => r.testCase == .integer id).mapM EntityRow.read

/-- The rows with these ids, in the order of the ids, and as often as an id is named. -/
def entitiesById (s : RelationalStore) (ids : List EntityId) : Except StoreError (List Entity) :=
  (ids.filterMap fun id => s.entities.rows.find? fun r => r.id == id).mapM EntityRow.read

def eventsOf (s : RelationalStore) (id : TestCaseId) : Except StoreError (List Event) :=
  (s.events.rows.filter fun r => r.testCase == .integer id).mapM EventRow.read

/-- Earlier samples first; on a tie the smaller id. -/
def sampledBefore (a b : CountRow) : Bool :=
  a.timestamp.le b.timestamp && (!b.timestamp.le a.timestamp || decide (a.id ≤ b.id))

def countsOf (s : RelationalStore) (id : TestCaseId) : Except StoreError (List CountSample) :=
  ((s.counts.rows.filter fun r => r.testCase == .integer id).mergeSort sampledBefore).mapM
    CountRow.read

instance : EventStore RelationalStore where
  saveEntities batch := fun s => s.saveEntities batch
  saveEvents batch := .writing fun s => (s.saveEvents batch).map ((), ·)
  saveCounts batch := .writing fun s => (s.saveCounts batch).map ((), ·)
  createTestCase tc := .writing fun s => s.createTestCase tc
  finishTestCase id success now := .writing fun s => (s.finishTestCase id success now).map ((), ·)
  testCase id := .reading fun s => s.testCase id
  testCasesOfRun run := .reading fun s => s.testCasesOfRun run
  entities id := .reading fun s => s.entitiesOf id
  entitiesById ids := .reading fun s => s.entitiesById ids
  events id := .reading fun s => s.eventsOf id
  counts id := .reading fun s => s.countsOf id
  resolved s := s.resolved

end RelationalStore

end StorageLifecycle
