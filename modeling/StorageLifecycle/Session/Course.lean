import StorageLifecycle.ObserverKind
import StorageLifecycle.Event

/-!
# The course of a resource

Each kind of resource goes through four event types: one when it appears, one when it is settled,
one when its deletion is asked for, and one when it is gone. A change of a resource asks for some
of them, in this order.
-/

namespace StorageLifecycle

/-- The four event types of a kind of resource. -/
structure Course where
  created : EventType
  settled : EventType
  leaving : EventType
  terminal : EventType
deriving DecidableEq, Repr

/-- The four types, in the order of the course. -/
def Course.types (c : Course) : List EventType := [c.created, c.settled, c.leaving, c.terminal]

namespace ResourceKind

def course : ResourceKind → Course
  | claim => ⟨.pvcAdded, .pvcBound, .pvcDeletingStarted, .pvcDeletingEnded⟩
  | pod => ⟨.podAdded, .podReady, .podTerminating, .podDeleted⟩
  | attachment => ⟨.pvcAttachStarted, .pvcAttachEnded, .pvcUnattachStarted, .pvcUnattachEnded⟩

/-- The four types of a course are different. -/
theorem course_nodup (k : ResourceKind) : k.course.types.Nodup := by
  cases k <;> decide

/-- Every event type belongs to the course of some kind. -/
theorem exists_mem_course (t : EventType) : ∃ k : ResourceKind, t ∈ k.course.types := by
  cases t
  case podAdded | podReady | podTerminating | podDeleted => exact ⟨.pod, by decide⟩
  case pvcAdded | pvcBound | pvcDeletingStarted | pvcDeletingEnded => exact ⟨.claim, by decide⟩
  all_goals exact ⟨.attachment, by decide⟩

end ResourceKind

namespace Snapshot

/-- Is a claim bound, a pod ready, an attachment attached? -/
def isSettled : Snapshot → Bool
  | claim c => c.isBound
  | pod p => p.ready
  | attachment a => a.attached

/-- Has the deletion of the resource been asked for? -/
def isLeaving : Snapshot → Bool
  | claim c => c.deletion.isSome
  | pod p => p.deletion.isSome
  | attachment a => a.deletion.isSome

end Snapshot

namespace Course

/-- The event types that a snapshot of a changed resource shows. -/
def shown (c : Course) (s : Snapshot) : List EventType :=
  (if s.isSettled then [c.settled] else []) ++ if s.isLeaving then [c.leaving] else []

/-- The event types that a change asks for. A resource that changes without having appeared has
appeared unseen. -/
def asked (c : Course) (change : Change) (s : Snapshot) (appeared : Bool) : List EventType :=
  match change with
  | .added => [c.created]
  | .modified => if appeared then c.shown s else c.created :: c.shown s
  | .deleted => [c.terminal]
  | .other _ => []

end Course

end StorageLifecycle
