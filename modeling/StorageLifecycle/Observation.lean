import StorageLifecycle.Runner
import StorageLifecycle.Metrics.Collect

/-!
# Observing one test case

A test case is stored, all four observers run until they are asked to stop, the outcome is stored,
and the metrics are collected. The test case is a success when every session ended with what it
held stored. What the sessions do in between is up to the caller.
-/

namespace StorageLifecycle

/-- The result of an observation. There are no metrics when nothing was observed. -/
structure Outcome where
  testCase : TestCase
  report : RunReport
  metrics : Option CaseMetrics
deriving Repr

namespace Observation

/-- Why an observation failed, and at which point. -/
inductive Cause where
  | createTestCase (e : StoreError)
  | observers (e : ObserverError)
  | finishTestCase (e : StoreError)
  | collect (e : CollectorError)
  | readTestCase (e : StoreError)
deriving DecidableEq, Repr

/-- An error that wraps another one is followed by it, although its text holds it already. -/
def withSource (message : String) : Option StoreError → String
  | some e => message ++ ": " ++ e.message
  | none => message

def Cause.message : Cause → String
  | createTestCase e => "failed to create test case: " ++ e.message
  | observers e => withSource e.message (match e with
      | .store inner => some inner
      | _ => none)
  | finishTestCase e => "failed to finish test case: " ++ e.message
  | collect e => withSource e.message (match e with
      | .store inner => some inner
      | _ => none)
  | readTestCase e => e.message

variable {σ : Type}

/-- A step of an observation, on what the sessions share. -/
abbrev ObservationM (σ : Type) := ExceptT Cause (StateM (Shared σ))

/-- An operation of the store, with the cause that its error is. -/
def onStore {α : Type} (cause : StoreError → Cause) (m : StoreM σ α) : ObservationM σ α := fun w =>
  let (r, store) := m w.store
  (r.mapError cause, { w with store })

def tell (signals : List Signal) : ObservationM σ Unit := fun w => (.ok (), w.tell signals)

def tryObservers {α : Type} (r : Except ObserverError α) : ObservationM σ α := fun w =>
  (r.mapError .observers, w)

/-- Stores the test case and starts the four observers. -/
def begin [EventStore σ] (settings : ObserverSettings) (tc : TestCase) :
    ObservationM σ (TestCase × Runner) := do
  let id ← onStore .createTestCase (EventStore.createTestCase tc)
  let tc := { tc with id }
  let runner ← tryObservers (Runner.build ⟨settings, true, true, ObserverKind.all⟩)
  fun w => match runner.start w tc with
    | .ok (runner, w) => (.ok (tc, runner), w)
    | .error e => (.error (.observers e), w)

/-- The metrics of the test case; none when nothing was observed. -/
def collect [EventStore σ] (id : TestCaseId) : ObservationM σ (Option CaseMetrics) := fun w =>
  match CaseMetrics.collect id w.store with
  | (.ok m, store) => (.ok (some m), { w with store })
  | (.error (.runNotFound what), store) =>
    (.ok none, { w with store }.tell [.warn "no lifecycle events observed"
      [("tc_id", toString id), ("reason", what)]])
  | (.error e, store) => (.error (.collect e), { w with store })

/-- Stores the outcome of the test case and collects its metrics. -/
def conclude [EventStore σ] (tc : TestCase) (report : RunReport) (now : Instant) :
    ObservationM σ Outcome := do
  if !report.isClean then
    tell [.warn "one or more observer sessions ended early" [("tc_id", toString tc.id)]]
  onStore .finishTestCase (EventStore.finishTestCase tc.id report.isClean now)
  let metrics ← collect tc.id
  let stored ← onStore .readTestCase (EventStore.testCase tc.id)
  return ⟨stored.getD tc, report, metrics⟩

end Observation

end StorageLifecycle
