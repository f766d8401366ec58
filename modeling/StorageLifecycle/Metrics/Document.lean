import StorageLifecycle.Records

/-!
# Metrics as documents

The form in which metrics are handed on. How moments and statistics are written is up to the
caller.
-/

namespace StorageLifecycle

def Entity.toJson (e : Entity) : Json :=
  .ofMembers [("id", .integer e.id), ("name", .string e.name), ("k8s_uid", .string e.uid),
    ("entity_type", .string e.type.word), ("tc_id", .integer e.testCase)]

def Event.toJson (moment : Instant → Json) (e : Event) : Json :=
  .ofMembers [("id", .ofOption .integer e.id), ("name", .string e.name),
    ("tc_id", .integer e.testCase), ("entity_id", .integer e.entity),
    ("event_type", .string e.type.word), ("timestamp", moment e.timestamp)]

def TestCase.toJson (moment : Instant → Json) (tc : TestCase) : Json :=
  .ofMembers [("id", .integer tc.id), ("name", .string tc.name), ("run_name", .string tc.runName),
    ("started_at", moment tc.startedAt), ("ended_at", .ofOption moment tc.endedAt),
    ("success", .ofOption .bool tc.success)]

def Timeline.toJson (moment : Instant → Json) (l : Timeline) : Json :=
  .ofMembers [("entity", l.entity.toJson), ("events", .ofItems (l.events.map (·.toJson moment)))]

def Peaks.toJson (p : Peaks) : Json :=
  .ofMembers [("samples", .integer p.samples), ("pods_creating", .integer p.tally.podsCreating),
    ("pods_ready", .integer p.tally.podsReady),
    ("pods_terminating", .integer p.tally.podsTerminating),
    ("pvc_creating", .integer p.tally.pvcCreating), ("pvc_bound", .integer p.tally.pvcBound),
    ("pvc_terminating", .integer p.tally.pvcTerminating)]

/-- The statistics of a stage, given how a number of seconds is written. -/
def DurationStats.toJson (seconds : Float → Json) (s : DurationStats) : Json :=
  .ofMembers [("count", .integer s.count), ("min_secs", seconds s.minSecs),
    ("max_secs", seconds s.maxSecs), ("avg_secs", seconds s.avgSecs),
    ("median_secs", seconds s.medianSecs)]

def CaseMetrics.toJson (moment : Instant → Json) (statistics : DurationStats → Json)
    (m : CaseMetrics) : Json :=
  .ofMembers [("tc_id", .integer m.testCaseId),
    ("test_case", .ofOption (·.toJson moment) m.testCase),
    ("timelines", .ofItems (m.timelines.map (·.toJson moment))),
    ("event_counts", .ofMembers (m.eventCounts.map fun (t, n) => (t.word, .integer n))),
    ("stages", .ofMembers (m.stages.map fun (s, d) => (s.word, statistics d))),
    ("peaks", m.peaks.toJson)]

def RunMetrics.toJson (moment : Instant → Json) (statistics : DurationStats → Json)
    (m : RunMetrics) : Json :=
  .ofMembers [("run_name", .string m.runName),
    ("test_cases", .ofItems (m.testCases.map (·.toJson moment statistics)))]

end StorageLifecycle
