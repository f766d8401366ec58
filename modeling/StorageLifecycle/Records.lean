import StorageLifecycle.Config.Document
import StorageLifecycle.Event
import StorageLifecycle.Time.Rfc3339
import StorageLifecycle.Metrics.Timeline
import StorageLifecycle.Text.Word

/-!
# Stored records as documents

The canonical form of a stored record: its fields under their names, timestamps in their written
form. Reading a record and writing it again gives that form, whatever the order of the fields,
further fields, and the spelling of timestamps in the text.
-/

namespace StorageLifecycle

/-- The name of an entity type in documents. -/
def EntityType.word : EntityType → String
  | pvc => "Pvc"
  | pod => "Pod"
  | unknown => "Unknown"

/-- The name of an event type in documents. -/
def EventType.word : EventType → String
  | pvcAdded => "PvcAdded"
  | pvcBound => "PvcBound"
  | pvcAttachStarted => "PvcAttachStarted"
  | pvcAttachEnded => "PvcAttachEnded"
  | pvcUnattachStarted => "PvcUnattachStarted"
  | pvcUnattachEnded => "PvcUnattachEnded"
  | pvcDeletingStarted => "PvcDeletingStarted"
  | pvcDeletingEnded => "PvcDeletingEnded"
  | podAdded => "PodAdded"
  | podReady => "PodReady"
  | podTerminating => "PodTerminating"
  | podDeleted => "PodDeleted"

/-- The name of a stage in documents. -/
def Stage.word : Stage → String
  | pvcCreation => "PvcCreation"
  | pvcAttachment => "PvcAttachment"
  | pvcUnattachment => "PvcUnattachment"
  | pvcDeletion => "PvcDeletion"
  | podCreation => "PodCreation"
  | podDeletion => "PodDeletion"

namespace Record

open Json Decoder

/-- A record under construction: its fields so far. -/
abbrev Members := List (String × Json)

def keep (name : String) (s : Members) (j : Json) : Members := s ++ [(name, j)]

/-- A field that is kept in canonical form. -/
def field (name : String) (d : Decoder Json) : RecordField Members := required name d (keep name)

/-- A field that is `null` when it is missing. -/
def fieldOrNull (name : String) (d : Decoder Json) : RecordField Members :=
  orNone name d fun s j => keep name s (j.getD .null)

def aText : Decoder Json := fun j => (text j).map .string

def aTruth : Decoder Json := fun j => (truth j).map .bool

/-- A whole number of 64 bits. -/
def aNumber : Decoder Json := fun j => (whole (-Word.half 64) (Word.half 64) j).map .integer

/-- A count of 32 bits. -/
def aCount : Decoder Json := fun j => (whole 0 (Word.bound 32) j).map .integer

/-- A timestamp, given back as it is written. -/
def aStamp : Decoder Json := fun j => do
  match Rfc3339.readStamp (← text j) with
  | some s => .ok (.string (s.write "Z"))
  | none => .error .mismatch

def entityType : Decoder Json := fun j =>
  (word ([EntityType.pvc, .pod, .unknown].map EntityType.word) j).map .string

def eventType : Decoder Json := fun j => (word (EventType.all.map EventType.word) j).map .string

def members (fields : List (RecordField Members)) : Decoder Json := fun j =>
  (record .refuse fields [] j).map .ofMembers

def entity : Decoder Json :=
  members [field "id" aNumber, field "name" aText, field "k8s_uid" aText,
    field "entity_type" entityType, field "tc_id" aNumber]

def event : Decoder Json :=
  members [fieldOrNull "id" aNumber, field "name" aText, field "tc_id" aNumber,
    field "entity_id" aNumber, field "event_type" eventType, field "timestamp" aStamp]

def testCase : Decoder Json :=
  members [field "id" aNumber, field "name" aText, field "run_name" aText,
    field "started_at" aStamp, fieldOrNull "ended_at" aStamp, fieldOrNull "success" aTruth]

def countSample : Decoder Json :=
  members [field "tc_id" aNumber, field "timestamp" aStamp, field "pods_creating" aCount,
    field "pods_ready" aCount, field "pods_terminating" aCount, field "pvc_creating" aCount,
    field "pvc_bound" aCount, field "pvc_terminating" aCount]

def settings : Decoder Json := fun j => (ObserverSettings.strictDecoder j).map (·.toJson)

def config : Decoder Json := fun j => (Config.decoder .refuse j).map (·.toJson)

end Record

end StorageLifecycle
