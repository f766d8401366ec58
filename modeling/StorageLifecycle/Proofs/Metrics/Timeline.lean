import Mathlib.Data.List.Basic
import StorageLifecycle.Metrics.Timeline
import StorageLifecycle.Proofs.Metrics.Statistics
import StorageLifecycle.Proofs.Store.Basic

/-!
# What the metrics depend on

Counts, stages and peaks are the same for timelines that match one by one, whatever the order of the
timelines and the numbers of their entities: it is enough that matching timelines have the same
types at the same moments. The statistics of durations do not depend on the order of the durations,
since they are sorted before they are added up.
-/

namespace StorageLifecycle

/-! ## Timelines -/

namespace Timeline

/-- What happened, and when. -/
def marks (events : List Event) : List (EventType × Instant) :=
  events.map fun e => (e.type, e.timestamp)

/-- Timelines of entities of one type and name, with the same types at the same moments. -/
structure Matches (l l' : Timeline) : Prop where
  type : l'.entity.type = l.entity.type
  name : l'.entity.name = l.entity.name
  marks : (marks l'.events).Perm (Timeline.marks l.events)
  ordered : l.events.Pairwise fun a b => a.timestamp ≤ b.timestamp
  ordered' : l'.events.Pairwise fun a b => a.timestamp ≤ b.timestamp

variable {l l' : Timeline}

theorem sortEvents_sorted (events : List Event) :
    (sortEvents events).Pairwise fun a b => a.timestamp ≤ b.timestamp :=
  pairwise_mergeSort_by (fun e => e.timestamp.nanos) events

/-- The moments of one type, in the order of the timeline. -/
def momentsOf (l : Timeline) (type : EventType) : List Instant :=
  (l.events.filter fun e => e.type == type).map (·.timestamp)

theorem momentsOf_sorted (h : l.events.Pairwise fun a b => a.timestamp ≤ b.timestamp)
    (type : EventType) : (l.momentsOf type).Pairwise fun a b => a ≤ b :=
  List.pairwise_map.mpr (h.sublist List.filter_sublist)

theorem momentsOf_eq (l : Timeline) (type : EventType) :
    l.momentsOf type = ((marks l.events).filter fun p => p.1 == type).map (·.2) := by
  rw [marks, List.filter_map, List.map_map]
  rfl

/-- In matching timelines the moments of a type are the same, since both are in order. -/
theorem Matches.momentsOf_eq (h : l.Matches l') (type : EventType) :
    l'.momentsOf type = l.momentsOf type := by
  have hperm : (l'.momentsOf type).Perm (l.momentsOf type) := by
    rw [Timeline.momentsOf_eq, Timeline.momentsOf_eq]
    exact (h.marks.filter _).map _
  -- Two sorted lists with the same elements are equal, since equal moments cannot be told apart.
  refine List.Perm.eq_of_pairwise ?_ (momentsOf_sorted h.ordered' type)
    (momentsOf_sorted h.ordered type) hperm
  intro a b _ _ hab hba
  exact congrArg Instant.mk (Int.le_antisymm hab hba)

theorem first_timestamp (l : Timeline) (type : EventType) :
    (l.first type).map (·.timestamp) = (l.momentsOf type).head? := by
  rw [first, momentsOf, List.head?_map, List.head?_filter]

/-- A stage lasts from the first moment of one type to the first moment of another. -/
theorem duration_eq (l : Timeline) (stage : Stage) :
    l.duration stage = (l.momentsOf stage.bounds.1).head?.bind fun start =>
      (l.momentsOf stage.bounds.2).head?.map fun stop => stop.since start := by
  rw [← first_timestamp, ← first_timestamp]
  unfold duration
  cases l.first stage.bounds.1 with
  | none => rfl
  | some start => cases l.first stage.bounds.2 <;> rfl

/-- Matching timelines have stages of the same duration. -/
theorem Matches.duration_eq (h : l.Matches l') (stage : Stage) :
    l'.duration stage = l.duration stage := by
  rw [Timeline.duration_eq, Timeline.duration_eq, h.momentsOf_eq, h.momentsOf_eq]

end Timeline

/-! ## Lists of timelines -/

/-- Two lists of timelines that match one by one, in any order. -/
def TimelinesMatch (ls ls' : List Timeline) : Prop :=
  ∃ pairs : List (Timeline × Timeline), (pairs.map (·.1)).Perm ls ∧ (pairs.map (·.2)).Perm ls' ∧
    ∀ p ∈ pairs, p.1.Matches p.2

namespace CaseMetrics

/-- All that happened to the entities with a type and a name. -/
def marksOf (m : CaseMetrics) (type : EntityType) (name : String) : List (EventType × Instant) :=
  (m.timelines.filter fun l => l.entity.type == type && l.entity.name == name).flatMap
    fun l => Timeline.marks l.events

/-- The same test case with the same counts, stages and peaks, and the same happened to the entities
of each type and name. -/
structure Agrees (m m' : CaseMetrics) : Prop where
  testCase : m'.testCaseId = m.testCaseId ∧ m'.testCase = m.testCase
  eventCounts : m'.eventCounts = m.eventCounts
  stages : m'.stages = m.stages
  peaks : m'.peaks = m.peaks
  marksOf : ∀ type name, (m'.marksOf type name).Perm (m.marksOf type name)

end CaseMetrics

section

variable {ls ls' : List Timeline}

theorem perm_flatMap_of_matches {pairs : List (Timeline × Timeline)}
    (h : ∀ p ∈ pairs, p.1.Matches p.2) :
    ((pairs.map (·.2)).flatMap fun l => Timeline.marks l.events).Perm
      ((pairs.map (·.1)).flatMap fun l => Timeline.marks l.events) := by
  induction pairs with
  | nil => exact List.Perm.refl _
  | cons p rest ih =>
      rw [List.map_cons, List.map_cons, List.flatMap_cons, List.flatMap_cons]
      exact (h p List.mem_cons_self).marks.append
        (ih fun q hq => h q (List.mem_cons_of_mem _ hq))

/-- Timelines of one type and name match among themselves. -/
theorem TimelinesMatch.filter (h : TimelinesMatch ls ls') (type : EntityType) (name : String) :
    TimelinesMatch (ls.filter fun l => l.entity.type == type && l.entity.name == name)
      (ls'.filter fun l => l.entity.type == type && l.entity.name == name) := by
  obtain ⟨pairs, hls, hls', hmatch⟩ := h
  refine ⟨pairs.filter fun p => p.1.entity.type == type && p.1.entity.name == name, ?_, ?_, ?_⟩
  · have hfilter := hls.filter fun l => l.entity.type == type && l.entity.name == name
    rw [List.filter_map] at hfilter
    exact hfilter
  · have hfilter := hls'.filter fun l => l.entity.type == type && l.entity.name == name
    rw [List.filter_map] at hfilter
    have hsame : (pairs.filter fun p => p.1.entity.type == type && p.1.entity.name == name) =
        pairs.filter fun p => p.2.entity.type == type && p.2.entity.name == name := by
      refine List.filter_congr fun p hp => ?_
      rw [(hmatch p hp).type, (hmatch p hp).name]
    rw [hsame]
    exact hfilter
  · exact fun p hp => hmatch p (List.mem_filter.mp hp).1

theorem TimelinesMatch.marks (h : TimelinesMatch ls ls') :
    (ls'.flatMap fun l => Timeline.marks l.events).Perm
      (ls.flatMap fun l => Timeline.marks l.events) := by
  obtain ⟨pairs, hls, hls', hmatch⟩ := h
  exact (hls'.symm.flatMap_right _).trans
    ((perm_flatMap_of_matches hmatch).trans (hls.flatMap_right _))

theorem TimelinesMatch.countEvents_eq (h : TimelinesMatch ls ls') :
    CaseMetrics.countEvents ls' = CaseMetrics.countEvents ls := by
  have hcount : ∀ (ls : List Timeline) (t : EventType),
      (ls.flatMap (·.events)).countP (fun e => e.type == t) =
        (ls.flatMap fun l => Timeline.marks l.events).countP fun p => p.1 == t := by
    intro ls t
    have hmarks : (ls.flatMap fun l => Timeline.marks l.events) =
        Timeline.marks (ls.flatMap (·.events)) := by
      unfold Timeline.marks
      rw [List.map_flatMap]
    rw [hmarks, Timeline.marks, List.countP_map]
    rfl
  unfold CaseMetrics.countEvents
  refine List.map_congr_left fun t _ => ?_
  rw [hcount, hcount, h.marks.countP_eq]

theorem TimelinesMatch.measureStages_eq (h : TimelinesMatch ls ls') :
    CaseMetrics.measureStages ls' = CaseMetrics.measureStages ls := by
  obtain ⟨pairs, hls, hls', hmatch⟩ := h
  refine List.map_congr_left fun stage _ => ?_
  have hpairs : (pairs.map (·.2)).filterMap (fun l => l.duration stage) =
      (pairs.map (·.1)).filterMap fun l => l.duration stage := by
    rw [List.filterMap_map, List.filterMap_map]
    exact List.filterMap_congr fun p hp => (hmatch p hp).duration_eq stage
  have hdurations : (ls'.filterMap fun l => l.duration stage).Perm
      (ls.filterMap fun l => l.duration stage) := by
    refine (hls'.symm.filterMap _).trans ?_
    rw [hpairs]
    exact hls.filterMap _
  rw [DurationStats.ofSamples_eq_of_perm hdurations]

/-- The metrics of timelines that match agree. -/
theorem TimelinesMatch.agrees (h : TimelinesMatch ls ls') (id : TestCaseId)
    (testCase : Option TestCase) (samples : List CountSample) :
    (CaseMetrics.ofTimelines id testCase ls samples).Agrees
      (CaseMetrics.ofTimelines id testCase ls' samples) where
  testCase := ⟨rfl, rfl⟩
  eventCounts := h.countEvents_eq
  stages := h.measureStages_eq
  peaks := rfl
  marksOf type name := (h.filter type name).marks

end

end StorageLifecycle
