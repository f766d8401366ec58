import StorageLifecycle.Time.Rfc3339

/-!
# Watched resources

What a watch reports: the state of a claim, a pod or an attachment at some moment, and in which way
it changed.
-/

namespace StorageLifecycle

inductive ResourceKind where
  | claim
  | pod
  | attachment
deriving DecidableEq, Repr, Inhabited

/-- The three kinds in their fixed order. -/
def ResourceKind.all : List ResourceKind := [.claim, .pod, .attachment]

/-- The name of the kind in the cluster. -/
def ResourceKind.label : ResourceKind → String
  | claim => "PersistentVolumeClaim"
  | pod => "Pod"
  | attachment => "VolumeAttachment"

/-- A claim for storage. -/
structure ClaimState where
  name : String
  uid : String
  phase : Option String
  volume : Option String
  deletion : Option Rfc3339.Stamp
deriving DecidableEq, Repr

/-- Is the claim bound to a volume? The name of the volume may still be missing. -/
def ClaimState.isBound (c : ClaimState) : Bool := c.phase == some "Bound"

/-- A pod that may use claims. -/
structure PodState where
  name : String
  uid : String
  phase : Option String
  ready : Bool
  deletion : Option Rfc3339.Stamp
deriving DecidableEq, Repr

/-- The attachment of a volume to a node. -/
structure AttachmentState where
  name : String
  uid : String
  volume : Option String
  attached : Bool
  deletion : Option Rfc3339.Stamp
deriving DecidableEq, Repr

/-- The state of a resource at some moment. -/
inductive Snapshot where
  | claim (c : ClaimState)
  | pod (p : PodState)
  | attachment (a : AttachmentState)
deriving DecidableEq, Repr

namespace Snapshot

def kind : Snapshot → ResourceKind
  | claim _ => .claim
  | pod _ => .pod
  | attachment _ => .attachment

def name : Snapshot → String
  | claim c => c.name
  | pod p => p.name
  | attachment a => a.name

def uid : Snapshot → String
  | claim c => c.uid
  | pod p => p.uid
  | attachment a => a.uid

end Snapshot

/-- How a resource changed. -/
inductive Change where
  | added
  | modified
  | deleted
  | other (what : String)
deriving DecidableEq, Repr

namespace Change

/-- The change that a watch names. -/
def ofLabel (s : String) : Change :=
  match s with
  | "ADDED" => added
  | "MODIFIED" => modified
  | "DELETED" => deleted
  | what => other what

def display : Change → String
  | added => "ADDED"
  | modified => "MODIFIED"
  | deleted => "DELETED"
  | other what => "OTHER(" ++ what ++ ")"

end Change

/-- One message of a watch. -/
structure Notification where
  change : Change
  object : Option Snapshot
  observedAt : Instant
deriving DecidableEq, Repr

end StorageLifecycle
