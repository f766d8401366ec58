import Mathlib.Data.List.Nodup
import StorageLifecycle.Proofs.Metrics.Collecting
import StorageLifecycle.Proofs.Metrics.Timeline
import StorageLifecycle.Proofs.Store.Memory

/-!
# The metrics do not depend on the numbers of rows

In which order rows are stored and which ids they get is left to chance when several sessions write
to one store. The metrics of a test case see neither: they agree for two stores whose rows are the
same up to a change of ids.
-/

namespace StorageLifecycle

/-- The row under another id. -/
def Entity.renumber (f : EntityId → EntityId) (e : Entity) : Entity := { e with id := f e.id }

namespace MemoryStore

variable {m m' : MemoryStore} {tc : TestCaseId} {f : EntityId → EntityId}

/-! ## What is collected -/

/-- The rows that the metrics of a test case are about: its own, and those that its events name. -/
def observed (m : MemoryStore) (tc : TestCaseId) : List Entity :=
  m.entitiesOf tc ++ m.entitiesById (CaseMetrics.carriedIds (m.entitiesOf tc) (m.eventsOf tc))

/-- The metrics of a test case, or the error that there are none. -/
def metrics (m : MemoryStore) (tc : TestCaseId) : Except CollectorError CaseMetrics :=
  if (m.entitiesOf tc).isEmpty && (m.eventsOf tc).isEmpty then
    .error (CaseMetrics.nothingObserved tc)
  else if (m.observed tc).isEmpty then .error (CaseMetrics.nothingObserved tc)
  else .ok (.ofTimelines tc (m.testCase tc) (Timeline.build (m.observed tc) (m.eventsOf tc))
    (m.countsOf tc))

/-- The last part of a collection, when the rows are known. -/
def conclude (tc : TestCaseId) (entities : List Entity) (events : List Event) :
    CollectM MemoryStore CaseMetrics := do
  if entities.isEmpty then .fail (CaseMetrics.nothingObserved tc)
  else
    let samples ← .read (EventStore.counts tc)
    let testCase ← .read (EventStore.testCase tc)
    return .ofTimelines tc testCase (Timeline.build entities events) samples

theorem conclude_eq (m : MemoryStore) (tc : TestCaseId) (entities : List Entity) (events : List Event) :
    conclude tc entities events m =
      (if entities.isEmpty then .error (CaseMetrics.nothingObserved tc)
        else .ok (.ofTimelines tc (m.testCase tc) (Timeline.build entities events) (m.countsOf tc)),
        m) := by
  unfold conclude
  by_cases h : entities.isEmpty = true
  · rw [if_pos h, if_pos h]
    rfl
  · rw [if_neg h, if_neg h]
    rfl

/-- Collecting metrics reads the store and leaves it as it is. -/
theorem collect_eq (m : MemoryStore) (tc : TestCaseId) :
    CaseMetrics.collect tc m = (m.metrics tc, m) := by
  have hread : CaseMetrics.collect tc m =
      (if (m.entitiesOf tc).isEmpty && (m.eventsOf tc).isEmpty then
        CollectM.fail (CaseMetrics.nothingObserved tc)
      else do
        let carried := CaseMetrics.carriedIds (m.entitiesOf tc) (m.eventsOf tc)
        let entities ←
          if carried.isEmpty then pure (m.entitiesOf tc)
          else (m.entitiesOf tc ++ ·) <$> CollectM.read (EventStore.entitiesById carried)
        conclude tc entities (m.eventsOf tc) : CollectM MemoryStore CaseMetrics) m := rfl
  rw [hread]
  unfold metrics
  by_cases hnothing : ((m.entitiesOf tc).isEmpty && (m.eventsOf tc).isEmpty) = true
  · rw [if_pos hnothing, if_pos hnothing]
    rfl
  · rw [if_neg hnothing, if_neg hnothing]
    have hlast := conclude_eq m tc (m.observed tc) (m.eventsOf tc)
    by_cases hcarried : (CaseMetrics.carriedIds (m.entitiesOf tc) (m.eventsOf tc)).isEmpty = true
    · have hown : m.observed tc = m.entitiesOf tc := by
        rw [observed, List.isEmpty_iff.mp hcarried, entitiesById]
        simp
      rw [hown] at hlast ⊢
      simp only [if_pos hcarried]
      exact hlast
    · simp only [if_neg hcarried]
      exact hlast

/-! ## Renumbering -/

/-- What an event says, with the entity under another id. -/
def retrace (f : EntityId → EntityId) (t : EventType × Instant × EntityId) :
    EventType × Instant × EntityId := (t.1, t.2.1, f t.2.2)

/-- The second store has the rows of the first under other ids, and the same test case. -/
structure Renumbered (tc : TestCaseId) (f : EntityId → EntityId) (m m' : MemoryStore) : Prop where
  entities : m'.entities.Perm (m.entities.map (Entity.renumber f))
  nodup : (m'.entities.map (·.id)).Nodup
  known : ∀ e ∈ m.eventsOf tc, e.entity ∈ m.entities.map (·.id)
  events : ((m'.eventsOf tc).map trace).Perm (((m.eventsOf tc).map trace).map (retrace f))
  counts : m'.countsOf tc = m.countsOf tc
  testCase : m'.testCase tc = m.testCase tc

/-- Different rows have different new ids. -/
theorem Renumbered.injOn (h : Renumbered tc f m m') {i j : EntityId}
    (hi : i ∈ m.entities.map (·.id)) (hj : j ∈ m.entities.map (·.id)) (heq : f i = f j) : i = j := by
  have hperm : (m'.entities.map (·.id)).Perm ((m.entities.map (·.id)).map f) := by
    have hids := h.entities.map (·.id)
    rw [List.map_map] at hids ⊢
    exact hids
  exact List.inj_on_of_nodup_map (hperm.nodup h.nodup) hi hj heq

theorem Renumbered.entitiesOf (h : Renumbered tc f m m') :
    (m'.entitiesOf tc).Perm ((m.entitiesOf tc).map (Entity.renumber f)) := by
  have hfilter := h.entities.filter fun e => e.testCase == tc
  rw [List.filter_map] at hfilter
  exact hfilter

theorem Renumbered.event_ids (h : Renumbered tc f m m') :
    ((m'.eventsOf tc).map (·.entity)).Perm (((m.eventsOf tc).map (·.entity)).map f) := by
  have hids := h.events.map fun t => t.2.2
  rw [List.map_map, List.map_map, List.map_map] at hids
  rw [List.map_map]
  exact hids

/-- A row is carried over from an earlier test case under its old id if it is under its new one. -/
theorem Renumbered.mem_carriedIds_iff (h : Renumbered tc f m m') {i : EntityId}
    (hi : i ∈ m.entities.map (·.id)) :
    f i ∈ CaseMetrics.carriedIds (m'.entitiesOf tc) (m'.eventsOf tc) ↔
      i ∈ CaseMetrics.carriedIds (m.entitiesOf tc) (m.eventsOf tc) := by
  have howned : ((m'.entitiesOf tc).map (·.id)).Perm (((m.entitiesOf tc).map (·.id)).map f) := by
    have hids := h.entitiesOf.map (·.id)
    rw [List.map_map] at hids ⊢
    exact hids
  refine CaseMetrics.mem_carriedIds_of_perm (fun i hi j hj => h.injOn hi hj) howned ?_ h.event_ids ?_ hi
  · intro j hj
    obtain ⟨e, he, rfl⟩ := List.mem_map.mp hj
    exact List.mem_map_of_mem (List.mem_filter.mp he).1
  · exact List.forall_mem_map.mpr h.known

/-- The metrics are about the same rows. -/
theorem Renumbered.observed (h : Renumbered tc f m m') :
    (m'.observed tc).Perm ((m.observed tc).map (Entity.renumber f)) := by
  unfold MemoryStore.observed
  rw [List.map_append]
  refine h.entitiesOf.append ?_
  have hfilter := h.entities.filter fun e =>
    (CaseMetrics.carriedIds (m'.entitiesOf tc) (m'.eventsOf tc)).contains e.id
  rw [List.filter_map] at hfilter
  refine hfilter.trans (List.Perm.of_eq (congrArg _ (List.filter_congr fun e he => ?_)))
  rw [Bool.eq_iff_iff, Function.comp_apply, List.contains_iff_mem, List.contains_iff_mem]
  exact h.mem_carriedIds_iff (List.mem_map_of_mem he)

theorem mem_entities_of_observed {e : Entity} (h : e ∈ m.observed tc) : e ∈ m.entities := by
  rcases List.mem_append.mp h with h | h
  · exact (List.mem_filter.mp h).1
  · exact (List.mem_filter.mp h).1

/-- The timeline of a row. -/
def timelineOf (m : MemoryStore) (tc : TestCaseId) (e : Entity) : Timeline :=
  ⟨e, Timeline.sortEvents ((m.eventsOf tc).filter fun ev => ev.entity == e.id)⟩

theorem marks_timelineOf (m : MemoryStore) (tc : TestCaseId) (e : Entity) :
    (Timeline.marks (m.timelineOf tc e).events).Perm
      ((((m.eventsOf tc).map trace).filter fun t => t.2.2 == e.id).map fun t => (t.1, t.2.1)) := by
  refine ((List.mergeSort_perm _ _).map _).trans (List.Perm.of_eq ?_)
  rw [List.filter_map, List.map_map]
  rfl

/-- A row has the same events under its new id. -/
theorem Renumbered.matches (h : Renumbered tc f m m') {e : Entity} (he : e ∈ m.entities) :
    (m.timelineOf tc e).Matches (m'.timelineOf tc (e.renumber f)) where
  type := rfl
  name := rfl
  marks := by
    refine (marks_timelineOf m' tc _).trans ?_
    refine List.Perm.trans ?_ (marks_timelineOf m tc e).symm
    have hsame : ((((m.eventsOf tc).map trace).map (retrace f)).filter fun t =>
        t.2.2 == f e.id).map (fun t => (t.1, t.2.1)) =
        (((m.eventsOf tc).map trace).filter fun t => t.2.2 == e.id).map fun t => (t.1, t.2.1) := by
      rw [List.filter_map, List.map_map]
      refine congrArg _ (List.filter_congr fun t ht => ?_)
      obtain ⟨ev, hev, rfl⟩ := List.mem_map.mp ht
      rw [Bool.eq_iff_iff, Function.comp_apply, beq_iff_eq, beq_iff_eq]
      exact ⟨h.injOn (h.known ev hev) (List.mem_map_of_mem he), congrArg f⟩
    rw [← hsame]
    exact (h.events.filter fun t => t.2.2 == f e.id).map _
  ordered := Timeline.sortEvents_sorted _
  ordered' := Timeline.sortEvents_sorted _

theorem Renumbered.timelines (h : Renumbered tc f m m') :
    TimelinesMatch (Timeline.build (m.observed tc) (m.eventsOf tc))
      (Timeline.build (m'.observed tc) (m'.eventsOf tc)) := by
  refine ⟨(m.observed tc).map fun e => (m.timelineOf tc e, m'.timelineOf tc (e.renumber f)),
    ?_, ?_, ?_⟩
  · rw [List.map_map]
    exact (List.mergeSort_perm _ _).symm
  · have hrows := h.observed.symm.map (m'.timelineOf tc)
    rw [List.map_map] at hrows ⊢
    exact hrows.trans (List.mergeSort_perm _ _).symm
  · intro p hp
    obtain ⟨e, he, rfl⟩ := List.mem_map.mp hp
    exact h.matches (mem_entities_of_observed he)

end MemoryStore

/-- Two attempts to collect metrics agree: they fail with the same error, or both give metrics, which
agree. -/
inductive SameMetrics :
    Except CollectorError CaseMetrics → Except CollectorError CaseMetrics → Prop where
  | ok {m m' : CaseMetrics} (agrees : m.Agrees m') : SameMetrics (.ok m) (.ok m')
  | error (e : CollectorError) : SameMetrics (.error e) (.error e)

namespace MemoryStore

/-- The metrics of a test case agree in stores whose rows differ in their ids only. -/
theorem Renumbered.metrics {m m' : MemoryStore} {tc : TestCaseId} {f : EntityId → EntityId}
    (h : Renumbered tc f m m') : SameMetrics (m.metrics tc) (m'.metrics tc) := by
  have hown : (m'.entitiesOf tc).isEmpty = (m.entitiesOf tc).isEmpty := by
    have hlength := h.entitiesOf.length_eq
    rw [List.length_map] at hlength
    rw [Bool.eq_iff_iff, List.isEmpty_iff_length_eq_zero, List.isEmpty_iff_length_eq_zero, hlength]
  have hevents : (m'.eventsOf tc).isEmpty = (m.eventsOf tc).isEmpty := by
    have hlength := h.events.length_eq
    rw [List.length_map, List.length_map, List.length_map] at hlength
    rw [Bool.eq_iff_iff, List.isEmpty_iff_length_eq_zero, List.isEmpty_iff_length_eq_zero, hlength]
  have hobserved : (m'.observed tc).isEmpty = (m.observed tc).isEmpty := by
    have hlength := h.observed.length_eq
    rw [List.length_map] at hlength
    rw [Bool.eq_iff_iff, List.isEmpty_iff_length_eq_zero, List.isEmpty_iff_length_eq_zero, hlength]
  unfold MemoryStore.metrics
  rw [hown, hevents, hobserved, h.counts, h.testCase]
  split
  · exact .error _
  · split
    · exact .error _
    · exact .ok (h.timelines.agrees tc (m.testCase tc) (m.countsOf tc))

end MemoryStore

end StorageLifecycle
