import StorageLifecycle.Cluster.Attachment
import StorageLifecycle.Cluster.Pod
import StorageLifecycle.Cluster.Resume

/-!
# Objects of the cluster
-/

namespace StorageLifecycle

open Json Decoder

/-- The object that a manifest describes, given its state. -/
def WatchedObject.ofManifest {α β : Type} (state : Manifest α β → Snapshot)
    (m : Manifest α β) : WatchedObject :=
  ⟨m.metadata.bind (·.version), state m⟩

/-- The decoder for objects of a kind. -/
def WatchedObject.decoder (kind : ResourceKind) : Decoder WatchedObject := fun j =>
  match kind with
  | .claim => (ClusterClaim.decoder j).map (.ofManifest fun m => .claim (ClusterClaim.state m))
  | .pod => (ClusterPod.decoder j).map (.ofManifest fun m => .pod (ClusterPod.state m))
  | .attachment =>
    (ClusterAttachment.decoder j).map (.ofManifest fun m => .attachment (ClusterAttachment.state m))

end StorageLifecycle
