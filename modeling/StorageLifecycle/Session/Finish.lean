import StorageLifecycle.Session.Basic
import StorageLifecycle.Session.Report

/-!
# The end of a session

A session that is asked to stop tries its parked attachments once more and stores what it holds:
its events in the order of their timestamps, and its samples. A session whose feed closes loses
what it holds.
-/

namespace StorageLifecycle

/-- Why a session leaves its loop. -/
inductive Exit where
  | stop
  | closed
deriving DecidableEq, Repr

namespace Session

variable {σ : Type}

/-- Tries parked attachments once more, one after the other, each with the registry that its try
finds. -/
def resolveAll (s : Session) (w : Shared σ) : List (String × Registry) → Session × Shared σ
  | [] => (s, w)
  | (name, registry) :: rest =>
    let (s, w) := s.tryResolve w registry name
    s.resolveAll w rest

/-- The reports of the attachments that never found their claim. -/
def unresolvedSignals (s : Session) : List Signal :=
  s.parked.entries.flatMap fun (name, p) =>
    [.warn "attachment never correlated with a claim"
      [("observer", s.observerName), ("attachment", name), ("volume", p.volume),
        ("dropped", toString p.events.length)],
      .tick .handoffUnresolved []]

/-- Recorded events in the order of their timestamps; ties stay as they are. -/
def inOrder (buffer : List Recorded) : List Recorded :=
  buffer.mergeSort fun a b => decide (a.event.timestamp ≤ b.event.timestamp)

/-- Tries attachments once more, for which the map of those that are parked was asked for its keys, and
reports those that are parked still. -/
def retry (s : Session) (w : Shared σ) (tries : List (String × Registry)) : Session × Shared σ :=
  let (s, w) := s.resolveAll w tries
  (s, { w with supply := w.supply.arranged }.tell s.unresolvedSignals)

/-- The session before it stores what it holds: attachments were tried once more, and the events are in
the order of their timestamps. -/
def settle (s : Session) (w : Shared σ) (tries : List (String × Registry)) :
    Session × Shared σ :=
  let (s, w) := s.retry w tries
  ({ s with buffer := inOrder s.buffer }, w)

/-- Runs an operation of the store, unless there is nothing to save. -/
def saveUnlessEmpty {α : Type} (batch : List α) (save : List α → StoreM σ Unit) : StoreM σ Unit :=
  if batch.isEmpty then pure () else save batch

/-- The events that the session stores at once. -/
def batch (s : Session) : List Event := s.buffer.map (·.event)

/-- Stores the events and then the samples that a session holds. -/
def save [EventStore σ] (s : Session) : StoreM σ Unit := do
  saveUnlessEmpty s.batch EventStore.saveEvents
  saveUnlessEmpty s.counts EventStore.saveCounts

/-- Stores what the session holds: nothing, or the error, with the session as it was stored. -/
def persist [EventStore σ] (s : Session) (w : Shared σ) : Except StoreError Unit × Session × Shared σ :=
  match s.save.perform w.store with
  | (.ok (), store) => (.ok (), s, { w with store }.tell [.record .flushDuration])
  | (.error e, store) => (.error e, s, { w with store })

/-- Stores what the session holds, after attachments were tried once more. -/
def flushTrying [EventStore σ] (s : Session) (w : Shared σ) (tries : List (String × Registry)) :
    Except StoreError Unit × Session × Shared σ :=
  let (s, w) := s.settle w tries
  s.persist w

/-- The tries of a flush while nobody else publishes: all parked attachments, in the order in which
the map of them gives its keys. -/
def lastTries (s : Session) (w : Shared σ) : List (String × Registry) :=
  (w.supply.arrange s.parked.keys).map fun name => (name, w.registry)

/-- Stores what the session holds while nobody else publishes. -/
def flush [EventStore σ] (s : Session) (w : Shared σ) :
    Except StoreError Unit × Session × Shared σ :=
  s.flushTrying w (s.lastTries w)

/-- The report of a session that ends in this way, with nothing stored. -/
def report (s : Session) (ending : SessionEnd) : SessionReport :=
  ⟨s.kind, ending, 0, 0, s.handled, s.ignored, s.unresolved⟩

/-- What a session that was asked to stop makes of its last flush. -/
def concluded (s : Session) :
    Except StoreError Unit × Session × Shared σ → SessionReport × Session × Shared σ
  | (.ok (), s', w) =>
    ({ s.report .shutdown with
        eventsPersisted := s'.buffer.length
        countsPersisted := s'.counts.length
        unresolved := s'.unresolved }, s', w)
  | (.error e, s', w) =>
    (s.report (.flushFailed e.message), s', w.tell
      [.error "failed to persist session buffer"
        [("observer", s.observerName), ("tc_id", toString s.testCase), ("error", e.message)],
        .tick .flushFailures [("observer", s.observerName)]])

/-- Ends a session: its report, the session as it was left, and what it shared. -/
def finish [EventStore σ] (s : Session) (exit : Exit) (w : Shared σ) :
    SessionReport × Session × Shared σ :=
  match exit with
  | .closed =>
    (s.report (.watchExpired s.held), s, w.tell
      [.warn "watch ended before shutdown, buffered events dropped"
        [("observer", s.observerName), ("tc_id", toString s.testCase), ("dropped", toString s.held)],
        .tick .sessionsExpired [("observer", s.observerName)]])
  | .stop => s.concluded (s.flush w)

/-- The report of a session that never had a feed, and what is reported about it. -/
def failOpen (kind : ObserverKind) (testCase : TestCaseId) (e : ObserverError) (w : Shared σ) :
    SessionReport × Shared σ :=
  (.failedToOpen kind e.message, w.tell [.error "failed to open watch"
    [("observer", kind.name), ("tc_id", toString testCase), ("error", e.message)]])

/-! ## Whole sessions -/

/-- What a feed brings. -/
inductive Item where
  | notification (n : Notification)
  | listing (l : Listing)
deriving DecidableEq, Repr

/-- Takes one item of the feed. -/
def take [EventStore σ] (s : Session) (w : Shared σ) : Item → Session × Shared σ
  | .notification n => s.handle w n
  | .listing l => (s.sample l, w)

/-- Takes items in their order. -/
def takeAll [EventStore σ] (s : Session) (w : Shared σ) : List Item → Session × Shared σ
  | [] => (s, w)
  | item :: rest =>
    let (s, w) := s.take w item
    s.takeAll w rest

end Session

end StorageLifecycle
