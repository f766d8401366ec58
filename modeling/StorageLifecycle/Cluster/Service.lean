import StorageLifecycle.Cluster.Address
import StorageLifecycle.Cluster.Listing
import StorageLifecycle.Cluster.Pump

/-!
# A cluster that answers as planned

The cluster is asked for windows of watches and for listings. A plan has the answers, each for a
path and for one of the two; a request takes the first of them that is for it. Without an answer a
watch stays open in silence, and a listing is refused. Which of the two a request is for is told
from its address, and a request without an address is not made.
-/

namespace StorageLifecycle

/-- A planned answer, and how long it takes. -/
structure Response where
  path : String
  forWatch : Bool
  status : Nat
  delay : Nat
  /-- Why the request does not get through, if it does not. -/
  connectError : Option String
  body : List Chunk
deriving DecidableEq, Repr

/-- A request that was made. -/
structure ClusterRequest where
  moment : Tick
  address : Address
deriving DecidableEq, Repr

/-- Is an answer for a request? -/
def Response.isFor (a : Address) (r : Response) : Bool :=
  r.forWatch == a.isWatch && r.path == a.path

structure Cluster where
  /-- The namespace that is looked at; empty for all. -/
  area : String
  /-- How many notifications can wait for the reader of a watch. -/
  buffer : Nat
  plan : List Response
  requests : List ClusterRequest
  /-- The watches that are being read. -/
  pumps : List (ResourceKind × Pump)
  /-- What is reported about watches that nobody reads any more. -/
  reports : List (Tick × Signal)
deriving DecidableEq, Repr

namespace Cluster

def create (area : String) (buffer : Nat) (plan : List Response) : Cluster :=
  ⟨area, buffer, plan, [], [], []⟩

/-- The path of all objects of a kind. Attachments belong to no namespace. -/
def path (c : Cluster) (kind : ResourceKind) : String :=
  let scope := if c.area = "" then "" else "/namespaces/" ++ c.area
  match kind with
  | .claim => "/api/v1" ++ scope ++ "/persistentvolumeclaims"
  | .pod => "/api/v1" ++ scope ++ "/pods"
  | .attachment => "/apis/storage.k8s.io/v1/volumeattachments"

/-- The text of a request that has no address. -/
def unaddressed (e : AddressError) : String :=
  "Failed to build request: failed to build request: " ++ e.message

/-- The refusal of a listing for which there is no answer. -/
def noSuchList : Refusal := ⟨"Failure", "no such list", "NotFound", 404⟩

/-- Makes a request: its answer is not there for others. -/
def make (c : Cluster) (r : ClusterRequest) : Cluster :=
  { c with plan := c.plan.eraseP (·.isFor r.address), requests := c.requests ++ [r] }

/-- How many milliseconds all planned answers take together. -/
def delays (c : Cluster) : Nat :=
  c.plan.foldl (fun n r => r.body.foldl (fun n c => n + c.delay) (n + r.delay)) 0

/-! ## Watches -/

/-- The address of a request for a window. -/
def windowAddress (c : Cluster) (kind : ResourceKind) (r : WindowRequest) :
    Except AddressError Address :=
  Address.read <| Address.target (c.path kind)
    [("watch", "true"), ("timeoutSeconds", toString r.secs), ("allowWatchBookmarks", "true"),
     ("resourceVersion", r.version)]

def opening (kind : ResourceKind) (r : Response) : Opening :=
  ⟨r.delay, match r.connectError with
    | some reason => .error (serviceFailure reason)
    | none => .ok (.ofBody kind r.body)⟩

/-- A window whose request was taken for one for a listing, for which there is no answer. -/
def noSuchWindow : Opening := ⟨0, .ok ⟨[(0, .failure (.refused noSuchList))], some 0⟩⟩

/-- The answers to the requests of a watch. After a window that broke a watch waits a quarter of a
second at least. -/
def openings (c : Cluster) (kind : ResourceKind) (timeout : Nat) (a : Address) : List Opening :=
  (c.plan.filter (·.isFor a)).map (opening kind) ++
    if a.isWatch then [] else List.replicate (timeout / 250 + 2) noSuchWindow

/-- The watch of a kind as it will go. -/
def pump (c : Cluster) (kind : ResourceKind) (reader : Reader) (clock timeout : Nat) : Pump :=
  let p := Pump.start kind reader clock (clock + timeout)
  let answers := match c.windowAddress kind (p.windowRequest 1) with
    | .ok a => c.openings kind timeout a
    | .error _ => []
  let objection (r : WindowRequest) : Option String := match c.windowAddress kind r with
    | .ok _ => none
    | .error e => some (unaddressed e)
  .run objection answers p

/-- Makes the requests of a watch that were made up to a moment. -/
def account (c : Cluster) (p : Pump) (limit : Tick) : Cluster :=
  (p.requests.filter (·.moment ≤ limit)).foldl (fun c r =>
    match c.windowAddress p.kind r with
    | .ok a => c.make ⟨r.moment, a⟩
    | .error _ => c) c

/-! ## Listings -/

/-- What a planned answer to the request for a listing comes to, and after how long. -/
def listing (kind : ResourceKind) (r : Response) :
    Option (Nat × Except String (List Snapshot)) :=
  match r.connectError with
  | some reason => some (r.delay, .error (serviceFailure reason))
  | none => (Listing.collect r.delay [] r.body).map fun (wait, body) =>
      (wait, body.bind (Listing.ofAnswer kind r.status))

/-- What the request for a listing comes to, and after how long, if it is answered at all. -/
def listingAt (c : Cluster) (kind : ResourceKind) (a : Address) :
    Option (Nat × Except String (List Snapshot)) :=
  match c.plan.find? (·.isFor a) with
  | some r => listing kind r
  | none => if a.isWatch then none else some (0, .error noSuchList.display)

/-- Lists the objects of a kind: when the answer comes, if it does, and what it is. -/
def list (c : Cluster) (kind : ResourceKind) (clock : Tick) :
    Option (Tick × Except ObserverError (List Snapshot)) × Cluster :=
  match Address.read (Address.target (c.path kind) []) with
  | .error e => (some (clock, .error (.list kind.label (unaddressed e))), c)
  | .ok a =>
    ((c.listingAt kind a).map fun (wait, r) => (clock + wait, r.mapError (.list kind.label)),
      c.make ⟨clock, a⟩)

end Cluster

end StorageLifecycle
