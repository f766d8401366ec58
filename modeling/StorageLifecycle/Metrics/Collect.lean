import StorageLifecycle.Metrics.Timeline
import StorageLifecycle.Store.Basic

/-!
# Metrics of a stored test case

The rows of a test case are read and its timelines are rebuilt from their timestamps alone. An
entity that an earlier test case stored belongs to the timelines too when an event of this test
case names it. A test case without entities and events has no metrics.
-/

namespace StorageLifecycle

/-- A computation on a store that collects metrics. -/
abbrev CollectM (σ : Type) := ExceptT CollectorError (StateM σ)

namespace CollectM

variable {σ α : Type}

/-- An operation of the store; its error becomes one of the collection. -/
def read (m : StoreM σ α) : CollectM σ α := fun s =>
  let (r, s) := m s
  (r.mapError .store, s)

def fail (e : CollectorError) : CollectM σ α := fun s => (.error e, s)

end CollectM

namespace CaseMetrics

/-- The ids that the events name and that are not among the entities, each once, in ascending
order. -/
def carriedIds (entities : List Entity) (events : List Event) : List EntityId :=
  let known := entities.map (·.id)
  (((events.map (·.entity)).filter fun i => !known.contains i).mergeSort
    fun a b => decide (a ≤ b)).eraseDups

/-- The error for a test case of which nothing was stored. -/
def nothingObserved (id : TestCaseId) : CollectorError := .runNotFound ("test case " ++ toString id)

/-- The metrics of one test case. -/
def collect {σ : Type} [EventStore σ] (id : TestCaseId) : CollectM σ CaseMetrics := do
  let own ← .read (EventStore.entities id)
  let events ← .read (EventStore.events id)
  if own.isEmpty && events.isEmpty then
    .fail (nothingObserved id)
  else
    let carried := carriedIds own events
    let entities ←
      if carried.isEmpty then pure own
      else (own ++ ·) <$> .read (EventStore.entitiesById carried)
    if entities.isEmpty then
      .fail (nothingObserved id)
    else
      let samples ← .read (EventStore.counts id)
      let testCase ← .read (EventStore.testCase id)
      return ofTimelines id testCase (Timeline.build entities events) samples

end CaseMetrics

namespace RunMetrics

/-- The metrics of the test cases, without those of which nothing was stored. -/
def collectCases {σ : Type} [EventStore σ] : List TestCaseId → CollectM σ (List CaseMetrics)
  | [] => pure []
  | id :: rest => fun s =>
    match CaseMetrics.collect id s with
    | (.ok m, s) => ((m :: ·) <$> collectCases rest : CollectM σ _) s
    | (.error (.runNotFound _), s) => collectCases rest s
    | (.error (.store e), s) => (.error (.store e), s)

/-- The metrics of all test cases of a run that have any, in the order of their starts. -/
def collect {σ : Type} [EventStore σ] (run : String) : CollectM σ RunMetrics := do
  let cases ← .read (EventStore.testCasesOfRun run)
  let metrics ← collectCases (cases.map (·.id))
  if metrics.isEmpty then .fail (.runNotFound ("run " ++ run)) else return ⟨run, metrics⟩

end RunMetrics

end StorageLifecycle
