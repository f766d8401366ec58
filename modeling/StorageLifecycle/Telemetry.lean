import StorageLifecycle.Event

/-!
# Telemetry

What the library reports about its own work: counters, one gauge and one histogram, and log lines
of the two upper levels. A report is a list of signals in the order in which they were given.
-/

namespace StorageLifecycle

/-- Why a session ignored a notification. -/
inductive IgnoreReason where
  | emptyPayload
  | unknownChange
  | wrongKind
  | terminated
  | entityUnavailable
  | noVolume
deriving DecidableEq, Repr

def IgnoreReason.label : IgnoreReason → String
  | emptyPayload => "empty_payload"
  | unknownChange => "unknown_change"
  | wrongKind => "wrong_kind"
  | terminated => "terminated"
  | entityUnavailable => "entity_unavailable"
  | noVolume => "no_volume"

inductive MeterType where
  | counter
  | gauge
  | histogram
deriving DecidableEq, Repr

def MeterType.label : MeterType → String
  | counter => "counter"
  | gauge => "gauge"
  | histogram => "histogram"

/-- The meters, without their labels. -/
inductive Meter where
  | eventsRecorded
  | notificationsIgnored
  | flushFailures
  | handoffMisses
  | handoffUnresolved
  | sessionsExpired
  | flushDuration
  | entityDuplicates
  | activeSessions
  | buildInfo
deriving DecidableEq, Repr

namespace Meter

def all : List Meter :=
  [eventsRecorded, notificationsIgnored, flushFailures, handoffMisses, handoffUnresolved,
    sessionsExpired, flushDuration, entityDuplicates, activeSessions, buildInfo]

def name : Meter → String
  | eventsRecorded => "certwatch_observer_events_recorded_total"
  | notificationsIgnored => "certwatch_observer_notifications_ignored_total"
  | flushFailures => "certwatch_observer_flush_failures_total"
  | handoffMisses => "certwatch_observer_handoff_misses_total"
  | handoffUnresolved => "certwatch_observer_handoff_unresolved_total"
  | sessionsExpired => "certwatch_observer_sessions_expired_total"
  | flushDuration => "certwatch_observer_flush_duration_seconds"
  | entityDuplicates => "certwatch_store_entity_duplicates_total"
  | activeSessions => "certwatch_runner_active_sessions"
  | buildInfo => "certwatch_daemon_build_info"

def type : Meter → MeterType
  | flushDuration => .histogram
  | activeSessions | buildInfo => .gauge
  | _ => .counter

def description : Meter → String
  | eventsRecorded => "Total number of lifecycle events recorded by observers"
  | notificationsIgnored =>
    "Total number of watch notifications ignored (empty, wrong kind, unknown change)"
  | flushFailures => "Total number of failed shutdown flushes"
  | handoffMisses => "Total number of hand-off registry lookups that found no claim"
  | handoffUnresolved => "Total number of attachments still unresolved at session end"
  | sessionsExpired => "Total number of observer sessions ended by watch expiry"
  | flushDuration => "Time to persist buffered events at shutdown in seconds"
  | entityDuplicates => "Total number of entity inserts resolved to an existing row"
  | activeSessions => "Number of observer sessions currently running"
  | buildInfo => "Build information (always 1, with version label)"

end Meter

/-- The upper bounds of the histogram's buckets, in seconds. -/
def flushDurationBuckets : List Float := [0.001, 0.005, 0.01, 0.05, 0.1, 0.5, 1, 10]

inductive Level where
  | warn
  | error
deriving DecidableEq, Repr

def Level.label : Level → String
  | warn => "WARN"
  | error => "ERROR"

/-- A log line: its message, and named values beside it. -/
structure LogLine where
  level : Level
  message : String
  fields : List (String × String)
deriving DecidableEq, Repr

/-- The line as text, with its fields in alphabetical order. -/
def LogLine.display (l : LogLine) : String :=
  let fields := (l.fields.map fun (k, v) => k ++ "=" ++ v).mergeSort fun a b => decide (a ≤ b)
  l.level.label ++ " " ++ l.message ++ " [" ++ String.intercalate ", " fields ++ "]"

/-- One report: a counter goes up, the histogram gets a record, the gauge is set, or a line is
logged. Labels are given in alphabetical order of their keys. -/
inductive Signal where
  | count (meter : Meter) (labels : List (String × String)) (amount : Nat)
  | record (meter : Meter)
  | set (meter : Meter) (value : Nat)
  | log (line : LogLine)
deriving DecidableEq, Repr

namespace Signal

/-- A counter goes up by one. -/
def tick (meter : Meter) (labels : List (String × String)) : Signal := count meter labels 1

def warn (message : String) (fields : List (String × String)) : Signal :=
  log ⟨.warn, message, fields⟩

def error (message : String) (fields : List (String × String)) : Signal :=
  log ⟨.error, message, fields⟩

/-- How often a counter was told to go up, whatever its labels. -/
def total (meter : Meter) (signals : List Signal) : Nat :=
  signals.foldl (fun n s => match s with
    | count m _ k => if m = meter then n + k else n
    | _ => n) 0

/-- The log lines among the signals. -/
def lines (signals : List Signal) : List LogLine :=
  signals.filterMap fun s => match s with
    | log line => some line
    | _ => none

/-- The name of a series: the meter and its labels. -/
def seriesName (meter : Meter) (labels : List (String × String)) : String :=
  if labels.isEmpty then meter.name
  else meter.name ++ "\x7b"
    ++ String.intercalate "," (labels.map fun (k, v) => k ++ "=" ++ v) ++ "\x7d"

/-- Puts a value into a series: `join` says what becomes of the value that is there. -/
def intoSeries (join : Nat → Nat) (start : Nat) (name : String) :
    List (String × Nat) → List (String × Nat)
  | [] => [(name, start)]
  | (k, n) :: rest =>
    if k = name then (k, join n) :: rest else (k, n) :: intoSeries join start name rest

/-- The series that were touched: sums for counters, numbers of records for the histogram, the last
value for the gauge. -/
def summary (signals : List Signal) : List (String × Nat) :=
  signals.foldl (fun acc s => match s with
    | count m labels k => intoSeries (· + k) k (seriesName m labels) acc
    | record m => intoSeries (· + 1) 1 m.name acc
    | set m v => intoSeries (fun _ => v) v m.name acc
    | log _ => acc) []

end Signal

end StorageLifecycle
