import StorageLifecycle.Session.Course
import StorageLifecycle.Session.Shared
import StorageLifecycle.Store.Basic
import StorageLifecycle.Session.Tally

/-!
# Sessions

A session watches one kind of resource for one test case. It turns what its feed brings into
events and samples and holds them until it ends. A type fires once for a name, and nothing fires
for a name after its last type. The events of a claim or a pod go to its own entity. The events of
an attachment go to the claim that the registry has under the name of its volume; until there is
one they are parked, and they keep the moment at which they fired.
-/

namespace StorageLifecycle

/-- An event type that fired for a resource, and the moment it was stamped with. -/
structure Firing where
  resource : String
  type : EventType
  moment : Instant
deriving DecidableEq, Repr

/-- An event in the buffer, with the resource that it fired for. -/
structure Recorded where
  resource : String
  event : Event
deriving DecidableEq, Repr

/-- The events of an attachment whose claim is not known yet. -/
structure Parked where
  volume : String
  events : List (EventType × Instant)
deriving DecidableEq, Repr

structure Session where
  kind : ObserverKind
  testCase : TestCaseId
  /-- Stored entities by the name of their resource. -/
  entities : Keyed Entity
  /-- All that has fired, in the order of firing. -/
  fired : List Firing
  /-- The names for which the last type has fired. -/
  terminated : List String
  parked : Keyed Parked
  buffer : List Recorded
  counts : List CountSample
  /-- The latest stamp. -/
  last : Option Instant
  handled : Nat
  ignored : Nat
deriving DecidableEq, Repr

namespace Session

/-- A session at its start. -/
def start (kind : ObserverKind) (testCase : TestCaseId) : Session :=
  ⟨kind, testCase, .empty, [], [], .empty, [], [], none, 0, 0⟩

/-- How many events and samples the session holds. -/
def held (s : Session) : Nat := s.buffer.length + s.counts.length

/-- How many attachments wait for their claim. -/
def unresolved (s : Session) : Nat := s.parked.size

def observerName (s : Session) : String := s.kind.name

/-- Has the type fired for the name? -/
def hasFired (s : Session) (name : String) (type : EventType) : Bool :=
  s.fired.any fun f => f.resource == name && f.type == type

/-- The event types that fired for a name, in the order of firing. -/
def firedTypes (s : Session) (name : String) : List EventType :=
  (s.fired.filter fun f => f.resource == name).map (·.type)

def isTerminated (s : Session) (name : String) : Bool := s.terminated.contains name

/-- Is the type the last of the session's kind? -/
def isLast (s : Session) (type : EventType) : Bool :=
  s.kind.resource.any fun k => k.course.terminal == type

/-- The stamp of a moment: a moment before the latest stamp is moved up to it. -/
def stampOf (s : Session) (moment : Instant) : Instant :=
  match s.last with
  | some last => if moment < last then last else moment
  | none => moment

/-- The session after a stamp was given. -/
def stamped (s : Session) (stamp : Instant) : Session := { s with last := some stamp }

/-- Notes that a type fired for a name, and that the name is done if the type is the last. -/
def mark (s : Session) (name : String) (type : EventType) (stamp : Instant) : Session :=
  { s with
    fired := s.fired ++ [⟨name, type, stamp⟩]
    terminated := if s.isLast type then name :: s.terminated else s.terminated }

def countHandled (s : Session) : Session := { s with handled := s.handled + 1 }

def countIgnored (s : Session) : Session := { s with ignored := s.ignored + 1 }

section

variable {σ : Type}

/-- Ignores a notification for a reason. -/
def ignore (s : Session) (w : Shared σ) (reason : IgnoreReason) (lines : List Signal) :
    Session × Shared σ :=
  (s.countIgnored,
    w.tell (lines ++ [.tick .notificationsIgnored
      [("observer", s.observerName), ("reason", reason.label)]]))

/-- Puts an event for an entity into the buffer. -/
def record (s : Session) (w : Shared σ) (name : String) (type : EventType) (entity : EntityId)
    (stamp : Instant) : Session × Shared σ :=
  let event := Event.create w.supply.next type s.testCase entity stamp
  ({ s with buffer := s.buffer ++ [⟨name, event⟩] },
    { w with supply := w.supply.rest }.tell [.tick .eventsRecorded
      [("event_type", type.label), ("observer", s.observerName)]])

/-- Puts the events of an attachment into the buffer, in their order. -/
def recordAll (s : Session) (w : Shared σ) (name : String) (entity : EntityId) :
    List (EventType × Instant) → Session × Shared σ
  | [] => (s, w)
  | (type, stamp) :: rest =>
    let (s, w) := s.record w name type entity stamp
    s.recordAll w name entity rest

/-! ## Claims and pods -/

/-- What a claim or a pod brings along: its name and UID, the type of its entity, and the volume
under which the entity is published once it is bound. -/
structure Owner where
  name : String
  uid : String
  type : EntityType
  volume : Option String
deriving DecidableEq, Repr

/-- The stored entity of a resource; it is stored now if the session does not know it yet. -/
def ensureEntity [EventStore σ] (s : Session) (w : Shared σ) (o : Owner) :
    Option Entity × Session × Shared σ :=
  match s.entities.find? o.name with
  | some entity => (some entity, s, w)
  | none =>
    let fresh := Entity.fresh o.name o.uid o.type s.testCase
    match EventStore.saveEntities [fresh] w.store with
    | (.ok ids, store) =>
      let entity := (Entity.assignIds [fresh] ids).headD fresh
      (some entity, { s with entities := s.entities.insert o.name entity }, { w with store })
    | (.error e, store) =>
      (none, s, { w with store }.tell [.warn "failed to save entity"
        [("error", e.message), ("observer", s.observerName), ("resource", o.name)]])

/-- Publishes the entity of a claim when it is bound to a volume whose name is known. -/
def handOff (w : Shared σ) (o : Owner) (entity : Entity) (type : EventType) : Shared σ :=
  match o.volume with
  | some volume => if type = .pvcBound then w.publish volume entity else w
  | none => w

/-- Fires a type for a claim or a pod, unless it has fired before. -/
def fireOwn (s : Session) (w : Shared σ) (o : Owner) (entity : Entity) (stamp : Instant)
    (type : EventType) : Session × Shared σ :=
  if s.hasFired o.name type then (s, w)
  else
    let (s, w) := (s.mark o.name type stamp).record w o.name type entity.id stamp
    (s, handOff w o entity type)

/-- Fires types for a claim or a pod in their order. -/
def fireAllOwn (s : Session) (w : Shared σ) (o : Owner) (entity : Entity) (stamp : Instant) :
    List EventType → Session × Shared σ
  | [] => (s, w)
  | type :: rest =>
    let (s, w) := s.fireOwn w o entity stamp type
    s.fireAllOwn w o entity stamp rest

/-- What a change of a claim or a pod asks for. -/
def applyOwn [EventStore σ] (s : Session) (w : Shared σ) (o : Owner) (types : List EventType)
    (observedAt : Instant) : Session × Shared σ :=
  if types.isEmpty then (s, w)
  else
    match s.ensureEntity w o with
    | (none, s, w) => s.ignore w .entityUnavailable []
    | (some entity, s, w) =>
      let stamp := s.stampOf observedAt
      (s.stamped stamp).fireAllOwn w o entity stamp types

/-! ## Attachments -/

/-- Records the parked events of an attachment if its claim is in the registry by now. -/
def tryResolve (s : Session) (w : Shared σ) (registry : Registry) (name : String) :
    Session × Shared σ :=
  match s.parked.find? name with
  | none => (s, w)
  | some p =>
    match registry.lookup p.volume with
    | none => (s, w)
    | some claim => { s with parked := s.parked.erase name }.recordAll w name claim.id p.events

/-- Parks events of an attachment behind those that are parked already. -/
def park (s : Session) (w : Shared σ) (name volume : String) (events : List (EventType × Instant)) :
    Session × Shared σ :=
  let p := match s.parked.find? name with
    | some p => { p with events := p.events ++ events }
    | none => ⟨volume, events⟩
  ({ s with parked := s.parked.insert name p }, w.tell [.tick .handoffMisses []])

/-- Marks types as fired, in their order. -/
def markAll (s : Session) (name : String) (stamp : Instant) : List EventType → Session
  | [] => s
  | type :: rest => (s.mark name type stamp).markAll name stamp rest

/-- Fires those types of an attachment that have not fired before. Their events are recorded for the
claim under the volume; they are parked if there is none yet, or if earlier ones are parked. -/
def fireAttachment (s : Session) (w : Shared σ) (registry : Registry) (name volume : String)
    (types : List EventType) (observedAt : Instant) : Session × Shared σ :=
  let stamp := s.stampOf observedAt
  let fresh := types.filter fun t => !s.hasFired name t
  let s := (s.stamped stamp).markAll name stamp fresh
  if fresh.isEmpty then (s, w)
  else
    let events := fresh.map fun t => (t, stamp)
    match registry.lookup volume with
    | some claim =>
      if s.parked.contains name then s.park w name volume events
      else s.recordAll w name claim.id events
    | none => s.park w name volume events

/-- What a change of an attachment asks for. `before` is the registry when parked events are tried
again, `after` the registry when the claim of the new events is looked up. -/
def applyAttachment (s : Session) (w : Shared σ) (before after : Registry) (name volume : String)
    (types : List EventType) (observedAt : Instant) : Session × Shared σ :=
  let (s, w) := s.tryResolve w before name
  s.fireAttachment w after name volume types observedAt

/-! ## Notifications -/

/-- What a change of a resource of the session's kind asks for, while its course is not over.
`after` is the registry when the claim of an attachment's new events is looked up. -/
def applySnapshot [EventStore σ] (s : Session) (w : Shared σ) (after : Registry) (change : Change)
    (snapshot : Snapshot) (observedAt : Instant) : Session × Shared σ :=
  let course := snapshot.kind.course
  let types := course.asked change snapshot (s.hasFired snapshot.name course.created)
  match snapshot with
  | .claim c => s.applyOwn w ⟨c.name, c.uid, .pvc, c.volume⟩ types observedAt
  | .pod p => s.applyOwn w ⟨p.name, p.uid, .pod, none⟩ types observedAt
  | .attachment a =>
    match a.volume with
    | some volume => s.applyAttachment w w.registry after a.name volume types observedAt
    | none =>
      s.ignore w .noVolume [.warn "attachment has no persistent volume, ignoring"
        [("observer", s.observerName), ("attachment", a.name)]]

/-- The kind of resource that a session expects, as a value in a log line. -/
def expectation : Option ResourceKind → String
  | some k => "Some(" ++ k.label ++ ")"
  | none => "None"

/-- Handles one notification while claims are being published: what is shared holds the registry
at its beginning, and `after` is the registry at its second lookup. -/
def handleAmid [EventStore σ] (s : Session) (w : Shared σ) (after : Registry) (n : Notification) :
    Session × Shared σ :=
  let s := s.countHandled
  match n.object with
  | none =>
    s.ignore w .emptyPayload [.warn "notification without payload, ignoring"
      [("observer", s.observerName), ("change", n.change.display)]]
  | some snapshot =>
    match n.change with
    | .other what =>
      s.ignore w .unknownChange [.warn "unhandled change type, ignoring"
        [("observer", s.observerName), ("change", what), ("resource", snapshot.name)]]
    | change =>
      if s.kind.resource ≠ some snapshot.kind then
        s.ignore w .wrongKind [.warn "unexpected resource kind, ignoring"
          [("observer", s.observerName), ("expected", expectation s.kind.resource),
            ("got", snapshot.kind.label)]]
      else if s.isTerminated snapshot.name then s.ignore w .terminated []
      else s.applySnapshot w after change snapshot n.observedAt

/-- Handles one notification while nobody else publishes. -/
def handle [EventStore σ] (s : Session) (w : Shared σ) (n : Notification) : Session × Shared σ :=
  s.handleAmid w w.registry n

end

/-! ## Samples -/

/-- What the cluster listed at some moment. -/
structure Listing where
  pods : List Snapshot
  claims : List Snapshot
  observedAt : Instant
deriving DecidableEq, Repr

/-- Takes a sample. A resource that is leaving counts as that, whatever else it is. -/
def sample (s : Session) (l : Listing) : Session :=
  let stamp := s.stampOf l.observedAt
  { s.countHandled.stamped stamp with
    counts := s.counts ++ [⟨s.testCase, stamp, Tally.ofListings l.pods l.claims⟩] }

end Session

end StorageLifecycle
