/-!
# Observed entities

An entity is a claim or a pod of one test case. Its natural key is its type, its name and its test
case; its UID identifies it across test cases.
-/

namespace StorageLifecycle

/-- Row number of an entity; zero before the entity is stored. -/
abbrev EntityId := Int

/-- Row number of a test case; zero before the test case is stored. -/
abbrev TestCaseId := Int

inductive EntityType where
  | pvc
  | pod
  | unknown
deriving DecidableEq, Repr, Inhabited

namespace EntityType

/-- The stored name of the type. -/
def label : EntityType → String
  | pvc => "PVC"
  | pod => "POD"
  | unknown => "UNKNOWN"

/-- Every text names a type; one that is neither of the two known names is `unknown`. -/
def ofLabel (s : String) : EntityType :=
  if s = "PVC" then pvc else if s = "POD" then pod else unknown

@[simp] theorem ofLabel_label (t : EntityType) : ofLabel t.label = t := by cases t <;> rfl

end EntityType

structure Entity where
  id : EntityId
  name : String
  uid : String
  type : EntityType
  testCase : TestCaseId
deriving DecidableEq, Repr

namespace Entity

/-- An entity that no store has seen yet. -/
def fresh (name uid : String) (type : EntityType) (testCase : TestCaseId) : Entity :=
  ⟨0, name, uid, type, testCase⟩

/-- Writes ids onto entities one by one, as long as there are both. -/
def assignIds : List Entity → List EntityId → List Entity
  | e :: rest, id :: ids => { e with id } :: assignIds rest ids
  | batch, _ => batch

def isPersisted (e : Entity) : Bool := e.id ≠ 0

/-- Do two entities have the same natural key? -/
def sameKey (a b : Entity) : Bool :=
  a.type == b.type && a.name == b.name && a.testCase == b.testCase

/-- Two entities are one when they share the natural key or the UID. -/
def sameAs (a b : Entity) : Bool := a.sameKey b || a.uid == b.uid

def display (e : Entity) : String :=
  e.type.label ++ "/" ++ e.name ++ " (id=" ++ toString e.id ++ ", uid=" ++ e.uid ++ ")"

end Entity

end StorageLifecycle
