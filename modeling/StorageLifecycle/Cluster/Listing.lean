import StorageLifecycle.Cluster.Stream

/-!
# Listings

The answer to the request for all objects of a kind.
-/

namespace StorageLifecycle.Listing

open Json Decoder

/-- The metadata of a listing. -/
def metadata : Schema.Shape :=
  Schema.fields [("continue", Schema.aText), ("remainingItemCount", Schema.aLongNumber),
    ("resourceVersion", Schema.aText), ("selfLink", Schema.aText)]

/-- A listing under construction. -/
structure Draft where
  hasMetadata : Bool
  items : Option (List WatchedObject)

/-- Puts a member in. Metadata and items may stand once. -/
def Draft.put (kind : ResourceKind) (d : Draft) (member : String × Json) :
    Except DecodeError Draft :=
  match member.1 with
  | "metadata" =>
    if d.hasMetadata then .error .mismatch
    else (metadata member.2).map fun _ => { d with hasMetadata := true }
  | "items" =>
    if d.items.isSome then .error .mismatch
    else (optional (Decoder.list (WatchedObject.decoder kind)) member.2).map fun items =>
      { d with items := some (items.getD []) }
  | _ => (captured member.2).map fun _ => d

/-- A listing has items, if only `null` for none. -/
def decoder (kind : ResourceKind) : Decoder (List Snapshot)
  | .object members stop => do
    let draft ← members.foldlM (Draft.put kind) ⟨false, none⟩
    close stop
    match draft.items with
    | some items => .ok (items.map (·.snapshot))
    | none => .error .mismatch
  | j => .error (objection j)

/-- The objects that an answer lists, or the reason why it lists none. -/
def ofAnswer (kind : ResourceKind) (status : Nat) (body : List UInt8) :
    Except String (List Snapshot) :=
  match Utf8.decode body with
  | .error fault => .error ("UTF-8 Error: " ++ fault.message)
  | .ok text =>
    if Refusal.isRefused status then .error (Refusal.ofBody status text).display
    else ((Json.read text).decode (decoder kind)).mapError fun _ => undecodableAnswer

/-- A body that arrived as a whole or broke, and after how many milliseconds; none if it never
ends. -/
def collect (wait : Nat) (octets : List UInt8) :
    List Chunk → Option (Nat × Except String (List UInt8))
  | [] => some (wait, .ok octets)
  | c :: rest =>
    match c.part with
    | .stuck => none
    | .broken reason => some (wait + c.delay, .error (serviceFailure reason))
    | .octets bs => collect (wait + c.delay) (octets ++ bs) rest

end StorageLifecycle.Listing
