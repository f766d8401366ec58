import Mathlib.Data.List.Forall2
import StorageLifecycle.Proofs.Metrics.Renumbering

/-!
# The metrics of rounded timelines

A store that keeps whole microseconds rounds each moment down before a difference is taken. Rounding keeps
the order of moments, so the first event of a type stays a first one, and a duration changes by less than a
microsecond. A negative duration may become zero by that, and then it counts as a sample; one that is
negative by a microsecond or more stays negative.
-/

namespace StorageLifecycle

/-! ## Moments and durations -/

/-- The moment, rounded down to a whole microsecond. -/
def Instant.rounded (t : Instant) : Instant := .ofMicros t.micros

theorem Instant.rounded_mono {a b : Instant} (h : a ≤ b) : a.rounded ≤ b.rounded := by
  have hmicros := micros_mono h
  simp only [rounded, ofMicros, le_def]
  omega

namespace Interval

/-- The two differ by less than a microsecond. -/
def Near (d d' : Interval) : Prop := d.nanos - 1000 < d'.nanos ∧ d'.nanos < d.nanos + 1000

/-- The interval runs backwards by less than a microsecond. -/
def BarelyNegative (d : Interval) : Prop := -1000 < d.nanos ∧ d.nanos < 0

instance (d : Interval) : Decidable d.BarelyNegative :=
  inferInstanceAs (Decidable (-1000 < d.nanos ∧ d.nanos < 0))

theorem near_rounded (start stop : Instant) :
    (stop.since start).Near (stop.rounded.since start.rounded) := by
  simp only [Near, Instant.since, Instant.rounded, Instant.ofMicros, Instant.micros]
  omega

theorem isNegative_rounded {start stop : Instant} (h : ¬(stop.since start).BarelyNegative) :
    (stop.rounded.since start.rounded).isNegative = (stop.since start).isNegative := by
  refine decide_eq_decide.mpr ?_
  simp only [BarelyNegative, Instant.since, Instant.rounded, Instant.ofMicros, Instant.micros] at h ⊢
  omega

end Interval

/-! ## Timelines -/

/-- The event at a whole microsecond, with its entity under another id. -/
def Event.rounded (f : EntityId → EntityId) (e : Event) : Event :=
  { e with entity := f e.entity, timestamp := e.timestamp.rounded }

namespace Timeline

variable {f : EntityId → EntityId} {l l' : Timeline}

/-- The second timeline is that of the same entity under another id, at whole microseconds. -/
structure Rounds (f : EntityId → EntityId) (l l' : Timeline) : Prop where
  entity : l'.entity = l.entity.renumber f
  events : l'.events.Perm (l.events.map (Event.rounded f))
  ordered : l.events.Pairwise fun a b => a.timestamp ≤ b.timestamp
  ordered' : l'.events.Pairwise fun a b => a.timestamp ≤ b.timestamp

/-- The moments of a type are rounded one by one, since rounding keeps their order. -/
theorem Rounds.momentsOf_eq (h : l.Rounds f l') (type : EventType) :
    l'.momentsOf type = (l.momentsOf type).map Instant.rounded := by
  have hperm : (l'.momentsOf type).Perm ((l.momentsOf type).map Instant.rounded) := by
    have hfilter := (h.events.filter fun e => e.type == type).map (·.timestamp)
    rw [List.filter_map, List.map_map] at hfilter
    unfold momentsOf
    rw [List.map_map]
    exact hfilter
  refine List.Perm.eq_of_pairwise ?_ (momentsOf_sorted h.ordered' type) ?_ hperm
  · intro a b _ _ hab hba
    exact congrArg Instant.mk (Int.le_antisymm hab hba)
  · exact List.pairwise_map.mpr ((momentsOf_sorted h.ordered type).imp Instant.rounded_mono)

/-- A stage that has a duration has one between rounded moments. -/
theorem Rounds.duration_cases (h : l.Rounds f l') (stage : Stage) :
    (l.duration stage = none ∧ l'.duration stage = none) ∨
      ∃ start stop : Instant, l.duration stage = some (stop.since start) ∧
        l'.duration stage = some (stop.rounded.since start.rounded) := by
  rw [duration_eq, duration_eq, h.momentsOf_eq, h.momentsOf_eq, List.head?_map, List.head?_map]
  cases (l.momentsOf stage.bounds.1).head? with
  | none => exact .inl ⟨rfl, rfl⟩
  | some start =>
      cases (l.momentsOf stage.bounds.2).head? with
      | none => exact .inl ⟨rfl, rfl⟩
      | some stop => exact .inr ⟨start, stop, rfl, rfl⟩

end Timeline

/-! ## Metrics -/

theorem Tally.max_right_comm (a b c : Tally) : (a.max b).max c = (a.max c).max b := by
  simp only [Tally.max, Tally.mk.injEq]
  exact ⟨Nat.max_right_comm .., Nat.max_right_comm .., Nat.max_right_comm .., Nat.max_right_comm ..,
    Nat.max_right_comm .., Nat.max_right_comm ..⟩

/-- Peaks depend on the tallies alone, and not on their order. -/
theorem Peaks.ofSamples_eq_of_perm {a b : List CountSample}
    (h : (a.map (·.tally)).Perm (b.map (·.tally))) : ofSamples a = ofSamples b := by
  have hlength : a.length = b.length := by simpa using h.length_eq
  have hcomm : RightCommutative Tally.max := ⟨Tally.max_right_comm⟩
  have hpeak := h.foldl_eq (f := Tally.max) Tally.zero
  rw [List.foldl_map, List.foldl_map] at hpeak
  rw [ofSamples, ofSamples, hlength, hpeak]

namespace CaseMetrics

/-- The durations of a stage that count, in the order of the timelines. -/
def samples (m : CaseMetrics) (stage : Stage) : List Interval :=
  (m.timelines.filterMap fun l => l.duration stage).filter fun d => !d.isNegative

/-- The second metrics are those of the same timelines at whole microseconds. Counts and peaks are the
same, and where no duration is barely negative the samples are near each other. -/
structure Corresponds (f : EntityId → EntityId) (m m' : CaseMetrics) : Prop where
  timelines : List.Forall₂ (Timeline.Rounds f) m.timelines m'.timelines
  entityCount : m'.entityCount = m.entityCount
  eventCounts : m'.eventCounts = m.eventCounts
  peaks : m'.peaks = m.peaks
  stages : ∀ stage, (∀ l ∈ m.timelines, ∀ d, l.duration stage = some d → ¬d.BarelyNegative) →
    (m'.stage stage).count = (m.stage stage).count ∧
      List.Forall₂ Interval.Near (m.samples stage) (m'.samples stage)

variable {f : EntityId → EntityId} {ls ls' : List Timeline}

theorem stage_ofTimelines (id : TestCaseId) (testCase : Option TestCase) (ls : List Timeline)
    (samples : List CountSample) (stage : Stage) :
    (ofTimelines id testCase ls samples).stage stage =
      .ofSamples (ls.filterMap fun l => l.duration stage) := by
  cases stage <;> rfl

theorem events_of_rounds (h : List.Forall₂ (Timeline.Rounds f) ls ls') :
    (ls'.flatMap (·.events)).Perm ((ls.flatMap (·.events)).map (Event.rounded f)) := by
  induction h with
  | nil => exact List.Perm.refl _
  | cons hone _ ih =>
      rw [List.flatMap_cons, List.flatMap_cons, List.map_append]
      exact hone.events.append ih

theorem countEvents_of_rounds (h : List.Forall₂ (Timeline.Rounds f) ls ls') :
    countEvents ls' = countEvents ls := by
  unfold countEvents
  refine List.map_congr_left fun t _ => ?_
  rw [(events_of_rounds h).countP_eq, List.countP_map]
  rfl

/-- Where no duration is barely negative, the same durations count, and each changes but little. -/
theorem samples_of_rounds {stage : Stage} (h : List.Forall₂ (Timeline.Rounds f) ls ls')
    (hbare : ∀ l ∈ ls, ∀ d, l.duration stage = some d → ¬d.BarelyNegative) :
    List.Forall₂ Interval.Near
      ((ls.filterMap fun l => l.duration stage).filter fun d => !d.isNegative)
      ((ls'.filterMap fun l => l.duration stage).filter fun d => !d.isNegative) := by
  induction h with
  | nil => exact .nil
  | cons hone _ ih =>
      obtain ⟨hfirst, hrest⟩ := List.forall_mem_cons.mp hbare
      rcases hone.duration_cases stage with ⟨hnone, hnone'⟩ | ⟨start, stop, hsome, hsome'⟩
      · rw [List.filterMap_cons, List.filterMap_cons, hnone, hnone']
        exact ih hrest
      · have hsign := Interval.isNegative_rounded (hfirst _ hsome)
        rw [List.filterMap_cons, List.filterMap_cons, hsome, hsome']
        dsimp only
        rw [List.filter_cons, List.filter_cons, hsign]
        split
        · exact .cons (Interval.near_rounded start stop) (ih hrest)
        · exact ih hrest

/-- Metrics of the same timelines at whole microseconds correspond, if the samples have the same
tallies. -/
theorem corresponds_of_rounds (h : List.Forall₂ (Timeline.Rounds f) ls ls')
    {samples samples' : List CountSample}
    (hsamples : (samples'.map (·.tally)).Perm (samples.map (·.tally))) (id : TestCaseId)
    (testCase testCase' : Option TestCase) :
    (ofTimelines id testCase ls samples).Corresponds f (ofTimelines id testCase' ls' samples') where
  timelines := h
  entityCount := h.length_eq.symm
  eventCounts := countEvents_of_rounds h
  peaks := Peaks.ofSamples_eq_of_perm hsamples
  stages stage hbare := by
    have hnear := samples_of_rounds h hbare
    refine ⟨?_, hnear⟩
    rw [stage_ofTimelines, stage_ofTimelines, DurationStats.count_ofSamples,
      DurationStats.count_ofSamples, hnear.length_eq]

end CaseMetrics

end StorageLifecycle
