import StorageLifecycle.Resource

/-!
# Kinds of observers

Three observers follow the watch of one kind of resource each. The fourth follows no watch: it
lists pods and claims now and then and counts them.
-/

namespace StorageLifecycle

inductive ObserverKind where
  | claim
  | pod
  | attachment
  | count
deriving DecidableEq, Repr, Inhabited

namespace ObserverKind

/-- The four kinds in their fixed order. -/
def all : List ObserverKind := [claim, pod, attachment, count]

theorem mem_all (k : ObserverKind) : k ∈ all := by cases k <;> decide

/-- The name under which the observer reports. -/
def name : ObserverKind → String
  | claim => "PersistentVolumeClaimObserver"
  | pod => "PodObserver"
  | attachment => "VolumeAttachmentObserver"
  | count => "EntityNumberObserver"

/-- The word for the kind in a description of an observer. -/
def word : ObserverKind → String
  | claim => "PersistentVolumeClaim"
  | pod => "Pod"
  | attachment => "VolumeAttachment"
  | count => "EntityCount"

/-- The kind of resource whose watch the observer follows. -/
def resource : ObserverKind → Option ResourceKind
  | claim => some .claim
  | pod => some .pod
  | attachment => some .attachment
  | count => none

end ObserverKind

end StorageLifecycle
