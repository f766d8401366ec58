import StorageLifecycle.Cluster.Affinity
import StorageLifecycle.Cluster.Metadata
import StorageLifecycle.Resource

/-!
# Claims of the cluster
-/

namespace StorageLifecycle.ClusterClaim

open Json Decoder Schema

def typedReference : Shape :=
  fields [("apiGroup", aText), ("kind", aText), ("name", aText), ("namespace", aText)]

def localReference : Shape := fields [("apiGroup", aText), ("kind", aText), ("name", aText)]

/-- The name of the volume, if the specification has one. -/
def spec : Decoder (Option String) :=
  Schema.record
    [passed "accessModes" texts, passed "dataSource" localReference,
     passed "dataSourceRef" typedReference,
     passed "resources" (fields [("limits", textMap), ("requests", textMap)]),
     passed "selector" Affinity.labelSelector, passed "storageClassName" aText,
     passed "volumeAttributesClassName" aText, passed "volumeMode" aText,
     kept "volumeName" text fun _ volume => volume]
    none

/-- The specification of a claim that is not kept. -/
def specShape : Shape := fun j => (spec j).map fun _ => ()

def condition : Shape :=
  fields [("lastProbeTime", aMoment), ("lastTransitionTime", aMoment), ("message", aText),
    ("reason", aText), ("status", aText), ("type", aText)]

/-- The phase, if the status has one. -/
def status : Decoder (Option String) :=
  Schema.record
    [passed "accessModes" texts, passed "allocatedResourceStatuses" textMap,
     passed "allocatedResources" textMap, passed "capacity" textMap,
     passed "conditions" (listOf condition),
     passed "currentVolumeAttributesClassName" aText,
     passed "modifyVolumeStatus" (fields [("status", aText),
       ("targetVolumeAttributesClassName", aText)]),
     kept "phase" text fun _ phase => phase]
    none

def decoder : Decoder (Manifest (Option String) (Option String)) :=
  Manifest.decoder "v1" ResourceKind.claim.label spec status

/-- The state of a claim. -/
def state (m : Manifest (Option String) (Option String)) : ClaimState :=
  let data := m.metadata.getD .empty
  ⟨data.anyName, data.uid.getD "", m.status.join, m.spec.join, data.deletion⟩

end StorageLifecycle.ClusterClaim
