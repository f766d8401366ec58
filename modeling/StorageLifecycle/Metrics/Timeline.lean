import StorageLifecycle.Event
import StorageLifecycle.TestCase
import StorageLifecycle.Metrics.Statistics

/-!
# Timelines, stages and peaks

The timeline of an entity is the list of its events in the order of their timestamps. A stage is
the time from the first event of one type to the first event of another, and peaks are the
greatest counts that a sample showed.
-/

namespace StorageLifecycle

inductive Stage where
  | pvcCreation
  | pvcAttachment
  | pvcUnattachment
  | pvcDeletion
  | podCreation
  | podDeletion
deriving DecidableEq, Repr, Inhabited

namespace Stage

/-- The six stages in their fixed order. -/
def all : List Stage :=
  [pvcCreation, pvcAttachment, pvcUnattachment, pvcDeletion, podCreation, podDeletion]

/-- The event type that starts the stage, and the one that ends it. -/
def bounds : Stage → EventType × EventType
  | pvcCreation => (.pvcAdded, .pvcBound)
  | pvcAttachment => (.pvcAttachStarted, .pvcAttachEnded)
  | pvcUnattachment => (.pvcUnattachStarted, .pvcUnattachEnded)
  | pvcDeletion => (.pvcDeletingStarted, .pvcDeletingEnded)
  | podCreation => (.podAdded, .podReady)
  | podDeletion => (.podTerminating, .podDeleted)

def label : Stage → String
  | pvcCreation => "PVC_CREATION"
  | pvcAttachment => "PVC_ATTACHMENT"
  | pvcUnattachment => "PVC_UNATTACHMENT"
  | pvcDeletion => "PVC_DELETION"
  | podCreation => "POD_CREATION"
  | podDeletion => "POD_DELETION"

end Stage

/-- An entity with its events. -/
structure Timeline where
  entity : Entity
  events : List Event
deriving DecidableEq, Repr

namespace Timeline

/-- The first event of a type, in the order of the timeline. -/
def first (l : Timeline) (type : EventType) : Option Event := l.events.find? fun e => e.type == type

/-- From the first start event to the first end event, if there are both; it may be negative. -/
def duration (l : Timeline) (stage : Stage) : Option Interval := do
  let start ← l.first stage.bounds.1
  let stop ← l.first stage.bounds.2
  some (stop.timestamp.since start.timestamp)

/-- Events in the order of their timestamps; ties stay as they are. -/
def sortEvents (events : List Event) : List Event :=
  events.mergeSort fun a b => decide (a.timestamp ≤ b.timestamp)

/-- One timeline for each entity, in the order of their ids. Events of other entities are left
out. -/
def build (entities : List Entity) (events : List Event) : List Timeline :=
  (entities.map fun entity =>
      ⟨entity, sortEvents (events.filter fun e => e.entity == entity.id)⟩).mergeSort
    fun a b => decide (a.entity.id ≤ b.entity.id)

end Timeline

/-- The greatest of each count over all samples, and the number of samples. -/
structure Peaks where
  samples : Nat
  tally : Tally
deriving DecidableEq, Repr

def Peaks.ofSamples (samples : List CountSample) : Peaks :=
  ⟨samples.length, samples.foldl (fun peak s => peak.max s.tally) Tally.zero⟩

/-- All that is derived from the events of one test case. -/
structure CaseMetrics where
  testCaseId : TestCaseId
  testCase : Option TestCase
  timelines : List Timeline
  eventCounts : List (EventType × Nat)
  stages : List (Stage × DurationStats)
  peaks : Peaks
deriving Repr

namespace CaseMetrics

def entityCount (m : CaseMetrics) : Nat := m.timelines.length

/-- The number of events of a type; zero where none is listed. -/
def count (m : CaseMetrics) (type : EventType) : Nat := (m.eventCounts.lookup type).getD 0

/-- The statistics of a stage; those of no duration where none is listed. -/
def stage (m : CaseMetrics) (s : Stage) : DurationStats := (m.stages.lookup s).getD .empty

/-- The number of events of each of the twelve types in the timelines. -/
def countEvents (timelines : List Timeline) : List (EventType × Nat) :=
  let events := timelines.flatMap (·.events)
  EventType.all.map fun t => (t, events.countP fun e => e.type == t)

/-- The statistics of each of the six stages over the timelines. -/
def measureStages (timelines : List Timeline) : List (Stage × DurationStats) :=
  Stage.all.map fun s => (s, .ofSamples (timelines.filterMap fun l => l.duration s))

/-- The metrics of timelines and samples. -/
def ofTimelines (testCaseId : TestCaseId) (testCase : Option TestCase) (timelines : List Timeline)
    (samples : List CountSample) : CaseMetrics :=
  { testCaseId, testCase, timelines
    eventCounts := countEvents timelines
    stages := measureStages timelines
    peaks := .ofSamples samples }

end CaseMetrics

/-- The metrics of the test cases of one run. -/
structure RunMetrics where
  runName : String
  testCases : List CaseMetrics
deriving Repr

end StorageLifecycle
