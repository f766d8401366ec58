import StorageLifecycle.Metrics.Collect
import StorageLifecycle.Rehearsal.Basic
import StorageLifecycle.Store.Backend
import StorageLifecycle.Store.Faulty

/-!
# Scenes

A scene is a rehearsal on a store that fails on demand. It goes on by steps, each of which has an
answer, and after each step it shows what there is to see: the stored entities of the test cases
that it knows, the claims under the volumes that it knows, and what was reported since the last
look.
-/

namespace StorageLifecycle

/-- The store of a scene. -/
abbrev Shelf := Faulty Backend

/-- A step of a scene. -/
inductive Step where
  /-- Sends a notification into the feed of a kind, and lets a millisecond pass if it settles. -/
  | send (kind : ResourceKind) (n : Notification) (settles : Bool)
  | expire (kind : ResourceKind)
  | failWatch (kind : ResourceKind) (e : ObserverError)
  | healWatch (kind : ResourceKind)
  | setList (kind : ResourceKind) (result : Except ObserverError (List Snapshot))
  | failStore (m : StoreMethod) (fault : Fault)
  | healStore
  | advance (ms : Nat)
  | createTestCase (tc : TestCase)
  | finishTestCase (id : TestCaseId) (success : Bool)
  | saveEntity (e : Entity)
  | saveEvent (e : Event)
  | dump (id : TestCaseId)
  | collect (id : TestCaseId)
  | publish (volume : String) (claim : Entity)
  | clearRegistry

/-- What is stored of a test case, apart from its entities. -/
structure Dump where
  events : List Event
  counts : List CountSample
  testCase : Option TestCase
deriving DecidableEq, Repr

/-- The answer of a step. -/
inductive Answer where
  | done
  | delivery (d : Rehearsal.Delivery)
  /-- Was there a feed to close? -/
  | expired (was : Bool)
  /-- The id that something was stored under. -/
  | stored (id : Int)
  | refused (e : StoreError)
  | dump (d : Dump)
  | metrics (r : Except CollectorError CaseMetrics)

/-- What there is to see of a scene. -/
structure View where
  entities : List (TestCaseId × Entity)
  signals : List Signal
  registered : Nat
  /-- The claims under the known volumes. -/
  found : List (String × Entity)

structure Scene where
  rehearsal : Rehearsal Source Shelf
  cases : List TestCaseId
  volumes : List String
  /-- How many saved entities had been stored already, up to the last look. -/
  resolved : Nat

namespace Scene

def create (rehearsal : Rehearsal Source Shelf) : Scene := ⟨rehearsal, [], [], 0⟩

/-- A scene at the start, on an empty store. -/
def start (origin : Instant) (source : Source) (settings : ObserverSettings) (b : Backend) :
    Scene :=
  create (.create origin settings source (.start (.sound b)))

def onRehearsal (s : Scene) (f : Rehearsal Source Shelf → Rehearsal Source Shelf) : Scene :=
  { s with rehearsal := f s.rehearsal }

def onShared (s : Scene) (f : Shared Shelf → Shared Shelf) : Scene :=
  { s with rehearsal := { s.rehearsal with shared := f s.rehearsal.shared } }

def onShelf (s : Scene) (f : Shelf → Shelf) : Scene :=
  s.onShared fun w => { w with store := f w.store }

def onScript (s : Scene) (f : Script → Script) : Scene :=
  { s with rehearsal := { s.rehearsal with source := s.rehearsal.source.onScript f } }

/-- Lets a millisecond pass, if the step settles. -/
def settle (s : Scene) (settles : Bool) : Scene :=
  if settles then s.onRehearsal (·.advance 1) else s

/-- Remembers a test case. -/
def noteCase (s : Scene) (id : TestCaseId) : Scene :=
  if s.cases.contains id then s else { s with cases := id :: s.cases }

/-- Remembers a volume. -/
def noteVolume (s : Scene) (volume : String) : Scene :=
  if s.volumes.contains volume then s else { s with volumes := volume :: s.volumes }

/-- The volume that a state names. -/
def volume? : Snapshot → Option String
  | .claim c => c.volume
  | .pod _ => none
  | .attachment a => a.volume

/-- Runs an operation of the store. -/
def onStore {α : Type} (s : Scene) (m : StoreM Shelf α) : Except StoreError α × Scene :=
  let (r, store) := m.perform s.rehearsal.shared.store
  (r, s.onShelf fun _ => store)

/-- The answer that the result of an operation is. -/
def answer {α : Type} (f : α → Answer) : Except StoreError α → Answer
  | .ok a => f a
  | .error e => .refused e

/-- What the store would say if it did not fail on demand. -/
def peek {α : Type} (s : Scene) (default : α) (m : StoreM Backend α) : α :=
  match (m.perform s.rehearsal.shared.store.store).1 with
  | .ok a => a
  | .error _ => default

/-! ## Steps -/

def send (s : Scene) (kind : ResourceKind) (n : Notification) (settles : Bool) : Answer × Scene :=
  let (d, rehearsal) := s.rehearsal.send kind n
  let s := ({ s with rehearsal }).settle settles
  (.delivery d, (n.object.bind volume?).elim s s.noteVolume)

def createTestCase (s : Scene) (tc : TestCase) : Answer × Scene :=
  match s.onStore (EventStore.createTestCase tc) with
  | (.ok id, s) => (.stored id, s.noteCase id)
  | (.error e, s) => (.refused e, s)

def dump (s : Scene) (id : TestCaseId) : Dump :=
  ⟨s.peek [] (EventStore.events id), s.peek [] (EventStore.counts id),
    s.peek none (EventStore.testCase id)⟩

def perform (s : Scene) : Step → Answer × Scene
  | .send kind n settles => s.send kind n settles
  | .expire kind =>
    let (was, rehearsal) := s.rehearsal.expire kind
    (.expired was, ({ s with rehearsal }).settle true)
  | .failWatch kind e => (.done, s.onScript (·.failWatch kind e))
  | .healWatch kind => (.done, s.onScript (·.healWatch kind))
  | .setList kind result => (.done, s.onScript (·.setList kind result))
  | .failStore m fault => (.done, s.onShelf (·.inject m fault))
  | .healStore => (.done, s.onShelf (·.heal))
  | .advance ms => (.done, s.onRehearsal (·.advance ms))
  | .createTestCase tc => s.createTestCase tc
  | .finishTestCase id success =>
    let (r, s) := s.onStore (EventStore.finishTestCase id success s.rehearsal.wall)
    (answer (fun _ => .done) r, s)
  | .saveEntity e =>
    let (r, s) := s.onStore (EventStore.saveEntities [e])
    (answer (fun ids => .stored (ids.headD 0)) r, s)
  | .saveEvent e =>
    let (r, s) := s.onStore (EventStore.saveEvents [e])
    (answer (fun _ => .done) r, s)
  | .dump id => (.dump (s.dump id), s)
  | .collect id =>
    let (r, store) := CaseMetrics.collect id s.rehearsal.shared.store
    (.metrics r, s.onShelf fun _ => store)
  | .publish volume claim => (.done, (s.onShared (·.publish volume claim)).noteVolume volume)
  | .clearRegistry => (.done, s.onShared (·.clearRegistry))

/-! ## Looking -/

/-- The signals since the last look; entities that were stored already are counted by the store. -/
def signals (s : Scene) : List Signal :=
  let resolved := EventStore.resolved s.rehearsal.shared.store - s.resolved
  s.rehearsal.shared.signals ++ if resolved = 0 then [] else [.count .entityDuplicates [] resolved]

/-- The stored entities of the known test cases, in the order of their ids. -/
def entities (s : Scene) : List (TestCaseId × Entity) :=
  (s.cases.mergeSort fun a b => decide (a ≤ b)).flatMap fun id =>
    (s.peek [] (EventStore.entities id)).map (id, ·)

/-- The claims under the known volumes, in alphabetical order. -/
def found (s : Scene) : List (String × Entity) :=
  (s.volumes.mergeSort fun a b => decide (a ≤ b)).filterMap fun volume =>
    (s.rehearsal.shared.registry.lookup volume).map (volume, ·)

def look (s : Scene) : View × Scene :=
  let (late, source) := s.rehearsal.source.collect s.rehearsal.clock
  let s := s.onRehearsal ({ · with source })
  (⟨s.entities, s.signals ++ late, s.rehearsal.shared.registry.size, s.found⟩,
    { s.onShared (fun w => { w with signals := [] }) with
      resolved := EventStore.resolved s.rehearsal.shared.store })

/-- A number of milliseconds in which every session ends that will end. -/
def patience (s : Scene) : Nat :=
  s.rehearsal.settings.watchTimeoutMs + 1000 + s.rehearsal.source.delays

end Scene

end StorageLifecycle
