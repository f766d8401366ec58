import StorageLifecycle.Cluster.Metadata
import StorageLifecycle.Cluster.Volume
import StorageLifecycle.Resource

/-!
# Attachments of the cluster
-/

namespace StorageLifecycle.ClusterAttachment

open Json Decoder Schema

/-- The name of the volume, if the source has one. -/
def source : Decoder (Option String) :=
  Schema.record
    [passed "inlineVolumeSpec" Volume.persistent,
     kept "persistentVolumeName" text fun _ volume => volume]
    none

def spec : Decoder (Option String) :=
  Schema.record
    [passed "attacher" aText, passed "nodeName" aText,
     kept "source" source fun _ volume => volume.join]
    none

def volumeError : Shape := fields [("message", aText), ("time", aMoment)]

/-- Is the volume attached? -/
def status : Decoder Bool :=
  Schema.record
    [passed "attachError" volumeError, kept "attached" truth fun _ attached => attached.getD false,
     passed "attachmentMetadata" textMap, passed "detachError" volumeError]
    false

def decoder : Decoder (Manifest (Option String) Bool) :=
  Manifest.decoder "storage.k8s.io/v1" ResourceKind.attachment.label spec status

/-- The state of an attachment. -/
def state (m : Manifest (Option String) Bool) : AttachmentState :=
  let data := m.metadata.getD .empty
  ⟨data.anyName, data.uid.getD "", m.spec.join, m.status.getD false, data.deletion⟩

end StorageLifecycle.ClusterAttachment
