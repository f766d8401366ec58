import StorageLifecycle.Cluster.Schema

/-!
# Metadata of cluster objects
-/

namespace StorageLifecycle

open Json Decoder Schema

/-- What is kept of the metadata of an object. -/
structure Metadata where
  name : Option String
  /-- What a name is made from that the cluster chooses. -/
  generateName : Option String
  uid : Option String
  version : Option String
  deletion : Option Rfc3339.Stamp
deriving DecidableEq, Repr

namespace Metadata

def empty : Metadata := ⟨none, none, none, none, none⟩

/-- The name, or what it will be made from. -/
def anyName (m : Metadata) : String := (m.name <|> m.generateName).getD ""

def managedFields : Shape :=
  listOf (fields [("apiVersion", aText), ("fieldsType", aText), ("fieldsV1", anyValue),
    ("manager", aText), ("operation", aText), ("subresource", aText), ("time", aMoment)])

def ownerReferences : Shape :=
  listOf (fields [("apiVersion", aText), ("blockOwnerDeletion", aTruth), ("controller", aTruth),
    ("kind", aText), ("name", aText), ("uid", aText)])

/-- Metadata that is not kept. -/
def shape : Shape :=
  fields [("annotations", textMap), ("creationTimestamp", aMoment),
    ("deletionGracePeriodSeconds", aLongNumber), ("deletionTimestamp", aMoment),
    ("finalizers", texts), ("generateName", aText), ("generation", aLongNumber),
    ("labels", textMap), ("managedFields", managedFields), ("name", aText), ("namespace", aText),
    ("ownerReferences", ownerReferences), ("resourceVersion", aText), ("selfLink", aText),
    ("uid", aText)]

def decoder : Decoder Metadata :=
  Schema.record
    [passed "annotations" textMap, passed "creationTimestamp" aMoment,
     passed "deletionGracePeriodSeconds" aLongNumber,
     kept "deletionTimestamp" moment fun m deletion => { m with deletion },
     passed "finalizers" texts,
     kept "generateName" text fun m generateName => { m with generateName },
     passed "generation" aLongNumber, passed "labels" textMap,
     passed "managedFields" managedFields,
     kept "name" text fun m name => { m with name },
     passed "namespace" aText, passed "ownerReferences" ownerReferences,
     kept "resourceVersion" text fun m version => { m with version },
     passed "selfLink" aText,
     kept "uid" text fun m uid => { m with uid }]
    empty

end Metadata

/-- An object of one kind: its metadata, and what is kept of its specification and its status. -/
structure Manifest (α β : Type) where
  metadata : Option Metadata
  spec : Option α
  status : Option β

/-- The decoder for objects of a version and a kind; both may be missing in the text. -/
def Manifest.decoder {α β : Type} (version kind : String) (spec : Decoder α)
    (status : Decoder β) : Decoder (Manifest α β) :=
  Schema.record
    [fixed "apiVersion" version, fixed "kind" kind,
     kept "metadata" Metadata.decoder fun m metadata => { m with metadata },
     kept "spec" spec fun m spec => { m with spec },
     kept "status" status fun m status => { m with status }]
    ⟨none, none, none⟩

end StorageLifecycle
