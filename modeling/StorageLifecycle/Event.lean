import StorageLifecycle.Time.Rfc3339
import StorageLifecycle.Entity
import StorageLifecycle.Text.Word

/-!
# Lifecycle events

An event says that an entity went through one transition at one moment. Its name is built from the
type and from the first eight hexadecimal digits of a random 128-bit identifier.
-/

namespace StorageLifecycle

inductive EventType where
  | pvcAdded
  | pvcBound
  | pvcAttachStarted
  | pvcAttachEnded
  | pvcUnattachStarted
  | pvcUnattachEnded
  | pvcDeletingStarted
  | pvcDeletingEnded
  | podAdded
  | podReady
  | podTerminating
  | podDeleted
deriving DecidableEq, Repr, Inhabited

namespace EventType

/-- The twelve types in their fixed order. -/
def all : List EventType :=
  [pvcAdded, pvcBound, pvcAttachStarted, pvcAttachEnded, pvcUnattachStarted, pvcUnattachEnded,
    pvcDeletingStarted, pvcDeletingEnded, podAdded, podReady, podTerminating, podDeleted]

/-- The stored name of the type. -/
def label : EventType → String
  | pvcAdded => "PVC_ADDED"
  | pvcBound => "PVC_BOUND"
  | pvcAttachStarted => "PVC_ATTACH_STARTED"
  | pvcAttachEnded => "PVC_ATTACH_ENDED"
  | pvcUnattachStarted => "PVC_UNATTACH_STARTED"
  | pvcUnattachEnded => "PVC_UNATTACH_ENDED"
  | pvcDeletingStarted => "PVC_DELETING_STARTED"
  | pvcDeletingEnded => "PVC_DELETING_ENDED"
  | podAdded => "POD_ADDED"
  | podReady => "POD_READY"
  | podTerminating => "POD_TERMINATING"
  | podDeleted => "POD_DELETED"

/-- The type with a stored name. -/
def ofLabel (s : String) : Option EventType := all.find? fun t => t.label == s

theorem mem_all (t : EventType) : t ∈ all := by cases t <;> decide

/-- Reading the stored name of a type gives that type. -/
theorem ofLabel_label (t : EventType) : ofLabel t.label = some t := by cases t <;> rfl

/-- The type of entity that goes through the transition. An attachment event belongs to its
claim. -/
def entityType : EventType → EntityType
  | podAdded | podReady | podTerminating | podDeleted => .pod
  | _ => .pvc

/-- Does the transition end the life of its entity? -/
def isTerminal : EventType → Bool
  | pvcDeletingEnded | podDeleted => true
  | _ => false

/-- The stored name in lower case, with dashes. -/
def slug (t : EventType) : String :=
  String.ofList (t.label.toList.map fun c => if c = '_' then '-' else c.toLower)

end EventType

/-- A random identifier of 128 bits. -/
abbrev Uuid := BitVec 128

namespace Uuid

/-- The hexadecimal digit of a number below 16, in lower case. -/
def hexDigit (n : Nat) : Char := if n < 10 then Char.ofNat (48 + n) else Char.ofNat (87 + n)

/-- The first eight of the thirty-two hexadecimal digits. -/
def suffix (u : Uuid) : String :=
  String.ofList ((List.range 8).map fun i => hexDigit (u.toNat / Word.bound (4 * (31 - i)) % 16))

end Uuid

structure Event where
  id : Option Int
  name : String
  testCase : TestCaseId
  entity : EntityId
  type : EventType
  timestamp : Instant
deriving DecidableEq, Repr

namespace Event

/-- The name of an event of a type, made unique by a random identifier. -/
def nameFor (type : EventType) (u : Uuid) : String := "event-" ++ type.slug ++ "-" ++ u.suffix

/-- An event that no store has seen yet, named with a fresh identifier. -/
def create (u : Uuid) (type : EventType) (testCase : TestCaseId) (entity : EntityId)
    (timestamp : Instant) : Event :=
  ⟨none, nameFor type u, testCase, entity, type, timestamp⟩

def display (e : Event) : String :=
  e.name ++ " entity=" ++ toString e.entity ++ " type=" ++ e.type.label ++ " at="
    ++ Rfc3339.display e.timestamp

end Event

end StorageLifecycle
