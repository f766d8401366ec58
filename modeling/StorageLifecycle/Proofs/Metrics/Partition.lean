import StorageLifecycle.Proofs.Metrics.Rounding

/-!
# The metrics deal out the events of a test case

What is collected for a test case is stated in terms of the rows of the store alone. The timelines are
those of the entities that the test case stored or that one of its events names. Each event of the test
case is in exactly one of them, and in the order in which it was stored among the events of its moment.
Counts and durations are those of the stored events.

A store that answers every question from given rows collects metrics of this kind, whatever store it is.
-/

namespace StorageLifecycle

/-! ## What the metrics should be -/

/-- The first of some moments. -/
def Instant.earliest? (moments : List Instant) : Option Instant :=
  (moments.map (·.nanos)).min?.map Instant.mk

namespace CaseMetrics

variable (entities : List Entity) (log : List Event) (id : TestCaseId)

/-- The stored events of the test case and an entity. -/
def eventsOf (entity : EntityId) : List Event :=
  log.filter fun e => e.testCase == id && e.entity == entity

/-- Did the test case store the entity, or does one of its events name it? -/
def involves (x : Entity) : Bool :=
  x.testCase == id || log.any fun e => e.testCase == id && e.entity == x.id

/-- From the first start event of an entity to its first end event, if there are both. -/
def lasting (stage : Stage) (x : Entity) : Option Interval := do
  let momentsOf (type : EventType) : List Instant :=
    ((eventsOf log id x.id).filter fun e => e.type == type).map (·.timestamp)
  let start ← Instant.earliest? (momentsOf stage.bounds.1)
  let stop ← Instant.earliest? (momentsOf stage.bounds.2)
  some (stop.since start)

/-- The metrics deal out the stored events of the test case. -/
structure Partitions (m : CaseMetrics) : Prop where
  testCaseId : m.testCaseId = id
  /-- In the order of the entities, each once. -/
  ascending : (m.timelines.map (·.entity.id)).Pairwise (· < ·)
  entities : ∀ x, x ∈ m.timelines.map (·.entity) ↔
    x ∈ entities ∧ (x.testCase = id ∨ ∃ e ∈ log, e.testCase = id ∧ e.entity = x.id)
  events : ∀ l ∈ m.timelines, l.events.Perm (eventsOf log id l.entity.id)
  ordered : ∀ l ∈ m.timelines, l.events.Pairwise fun a b => a.timestamp ≤ b.timestamp
  /-- Events of one moment are in the order in which they were stored. -/
  stable : ∀ l ∈ m.timelines, ∀ t, l.events.filter (fun e => e.timestamp == t) =
    (eventsOf log id l.entity.id).filter fun e => e.timestamp == t
  all : (m.timelines.flatMap (·.events)).Perm (log.filter fun e => e.testCase == id)
  once : ∀ e ∈ log, e.testCase = id → ∃! l, l ∈ m.timelines ∧ e ∈ l.events
  eventCounts : m.eventCounts =
    EventType.all.map fun t => (t, log.countP fun e => e.testCase == id && e.type == t)
  stages : m.stages = Stage.all.map fun stage =>
    (stage, .ofSamples ((m.timelines.map (·.entity)).filterMap (lasting log id stage)))

/-- What a collection comes to: nothing was stored for the test case, or there are metrics that deal out
what was stored. -/
inductive Dealt : Except CollectorError CaseMetrics → Prop
  | nothing : (∀ x ∈ entities, x.testCase ≠ id) → (∀ e ∈ log, e.testCase ≠ id) →
    Dealt (.error (nothingObserved id))
  | metrics {m : CaseMetrics} :
    (∃ x ∈ entities, x.testCase = id) ∨ (∃ e ∈ log, e.testCase = id) →
      m.Partitions entities log id → Dealt (.ok m)

end CaseMetrics

/-! ## Sorting -/

namespace Timeline

/-- Sorting events by their timestamps keeps the order of those of one moment. -/
theorem filter_sortEvents (events : List Event) (t : Instant) :
    (sortEvents events).filter (fun e => e.timestamp == t) =
      events.filter fun e => e.timestamp == t := by
  have hsame : ∀ e ∈ events.filter (fun e => e.timestamp == t), e.timestamp = t :=
    fun e he => eq_of_beq (List.mem_filter.mp he).2
  have hsub : (events.filter fun e => e.timestamp == t).Sublist (sortEvents events) := by
    refine List.sublist_mergeSort ?_ ?_ ?_ List.filter_sublist
    · intro a b c hab hbc
      exact decide_eq_true (Int.le_trans (of_decide_eq_true hab) (of_decide_eq_true hbc))
    · intro a b
      rw [Bool.or_eq_true, decide_eq_true_eq, decide_eq_true_eq]
      exact Int.le_total _ _
    · refine List.pairwise_of_forall_mem_list fun a ha b hb => decide_eq_true ?_
      rw [hsame a ha, hsame b hb]
      exact Int.le_refl _
  have hfilter := hsub.filter fun e => e.timestamp == t
  rw [List.filter_filter] at hfilter
  simp only [Bool.and_self] at hfilter
  exact (hfilter.eq_of_length ((List.mergeSort_perm _ _).filter _).length_eq.symm).symm

end Timeline

/-- The first moment of a list in order is the earliest of the same moments in any order. -/
theorem Instant.earliest?_of_perm {sorted moments : List Instant} (hperm : sorted.Perm moments)
    (hsorted : sorted.Pairwise (· ≤ ·)) : earliest? moments = sorted.head? := by
  cases sorted with
  | nil =>
      rw [hperm.symm.eq_nil]
      rfl
  | cons t rest =>
      have hleast : (moments.map (·.nanos)).min? = some t.nanos := by
        refine List.min?_eq_some_iff.mpr ⟨List.mem_map_of_mem (hperm.mem_iff.mp List.mem_cons_self), ?_⟩
        refine List.forall_mem_map.mpr fun u hu => ?_
        rcases List.mem_cons.mp (hperm.mem_iff.mpr hu) with rfl | hrest
        · exact Int.le_refl _
        · exact List.rel_of_pairwise_cons hsorted hrest
      rw [earliest?, hleast]
      rfl

/-! ## Stores that answer from rows -/

/-- The store answers every question about test cases from the rows, and stays as it is. Entities are in
the order of their ids, and each event is of one of them. -/
structure Answers {σ : Type} [EventStore σ] (s : σ) (entities : List Entity) (log : List Event) :
    Prop where
  own : ∀ id, (EventStore.entities id).perform s =
    (.ok (entities.filter fun x => x.testCase == id), s)
  events : ∀ id, (EventStore.events id).perform s = (.ok (log.filter fun e => e.testCase == id), s)
  byId : ∀ ids : List EntityId, ids.Nodup → ∃ rows,
    (EventStore.entitiesById ids).perform s = (.ok rows, s) ∧
      rows.Perm (entities.filter fun x => ids.contains x.id)
  counts : ∀ id, ∃ samples, (EventStore.counts id).perform s = (.ok samples, s)
  testCase : ∀ id, ∃ tc, (EventStore.testCase id).perform s = (.ok tc, s)
  ascending : (entities.map (·.id)).Pairwise (· < ·)
  known : ∀ e ∈ log, e.entity ∈ entities.map (·.id)

/-- The store in memory answers from its rows as they are. -/
theorem MemoryStore.answers {m : MemoryStore} (hids : (m.entities.map (·.id)).Pairwise (· < ·))
    (hknown : ∀ e ∈ m.events, e.entity ∈ m.entities.map (·.id)) : Answers m m.entities m.events where
  own _ := rfl
  events _ := rfl
  byId ids _ := ⟨m.entitiesById ids, rfl, List.Perm.refl _⟩
  counts id := ⟨m.countsOf id, rfl⟩
  testCase id := ⟨m.testCase id, rfl⟩
  ascending := hids
  known := hknown

namespace CaseMetrics

/-- Elements that satisfy the one or the other, if none satisfies both. -/
theorem filter_append_perm_filter_or {α : Type} {p q : α → Bool} {l : List α}
    (h : ∀ a ∈ l, p a = true → q a = false) :
    (l.filter p ++ l.filter q).Perm (l.filter fun a => p a || q a) := by
  have hp : (l.filter fun a => p a || q a).filter p = l.filter p := by
    rw [List.filter_filter]
    exact List.filter_congr fun a _ => by cases p a <;> simp
  have hq : (l.filter fun a => p a || q a).filter (fun a => !p a) = l.filter q := by
    rw [List.filter_filter]
    refine List.filter_congr fun a ha => ?_
    cases hpa : p a with
    | false => simp
    | true => rw [h a ha hpa]; rfl
  rw [← hp, ← hq]
  exact List.filter_append_perm p _

/-- The timeline of an entity. -/
def timelineOf (log : List Event) (id : TestCaseId) (x : Entity) : Timeline :=
  ⟨x, Timeline.sortEvents (eventsOf log id x.id)⟩

variable {entities : List Entity} {log : List Event} {id : TestCaseId}

theorem involves_iff {x : Entity} :
    involves log id x = true ↔ x.testCase = id ∨ ∃ e ∈ log, e.testCase = id ∧ e.entity = x.id := by
  simp [involves]

theorem timelineOf_perm (log : List Event) (id : TestCaseId) (x : Entity) :
    (timelineOf log id x).events.Perm (eventsOf log id x.id) :=
  List.mergeSort_perm _ _

theorem duration_timelineOf (stage : Stage) (x : Entity) :
    (timelineOf log id x).duration stage = lasting log id stage x := by
  have hfirst : ∀ type, Instant.earliest?
      (((eventsOf log id x.id).filter fun e => e.type == type).map (·.timestamp)) =
        ((timelineOf log id x).momentsOf type).head? := fun type =>
    Instant.earliest?_of_perm (((timelineOf_perm log id x).filter _).map _)
      (Timeline.momentsOf_sorted (Timeline.sortEvents_sorted _) type)
  rw [Timeline.duration_eq, lasting]
  dsimp only
  rw [hfirst, hfirst]
  cases ((timelineOf log id x).momentsOf stage.bounds.1).head? with
  | none => rfl
  | some start => cases ((timelineOf log id x).momentsOf stage.bounds.2).head? <;> rfl

/-- The rows that are read are those that the test case involves. -/
theorem own_append_carried_perm (hids : (entities.map (·.id)).Nodup) {carried : List Entity}
    (hcarried : carried.Perm (entities.filter fun x =>
      (carriedIds (entities.filter fun x => x.testCase == id)
        (log.filter fun e => e.testCase == id)).contains x.id)) :
    ((entities.filter fun x => x.testCase == id) ++ carried).Perm
      (entities.filter (involves log id)) := by
  refine (hcarried.append_left _).trans ((filter_append_perm_filter_or ?_).trans ?_)
  · intro x hx hown
    rw [Bool.eq_false_iff, ne_eq, List.contains_iff_mem, mem_carriedIds]
    exact fun hmem => hmem.2 (List.mem_map_of_mem (List.mem_filter.mpr ⟨hx, hown⟩))
  · refine List.Perm.of_eq (List.filter_congr fun x hx => ?_)
    rw [Bool.eq_iff_iff, Bool.or_eq_true, beq_iff_eq, List.contains_iff_mem, mem_carriedIds,
      involves_iff]
    refine or_congr_right' fun hother => ?_
    constructor
    · rintro ⟨hnamed, -⟩
      obtain ⟨e, he, hid⟩ := List.mem_map.mp hnamed
      obtain ⟨hlog, hcase⟩ := List.mem_filter.mp he
      exact ⟨e, hlog, eq_of_beq hcase, hid⟩
    · rintro ⟨e, he, hcase, hid⟩
      refine ⟨List.mem_map.mpr ⟨e, List.mem_filter.mpr ⟨he, beq_iff_eq.mpr hcase⟩, hid⟩, ?_⟩
      -- A row of the test case with this id would be the row itself.
      intro hown
      obtain ⟨y, hy, hsame⟩ := List.mem_map.mp hown
      obtain ⟨hmem, hycase⟩ := List.mem_filter.mp hy
      obtain rfl := List.inj_on_of_nodup_map hids hmem hx hsame
      exact hother (eq_of_beq hycase)

/-! ## The timelines of the rows that a test case involves -/

/-- The timelines of the rows that the test case involves. -/
def timelinesOf (entities : List Entity) (log : List Event) (id : TestCaseId) : List Timeline :=
  (entities.filter (involves log id)).map (timelineOf log id)

theorem entities_timelines (entities : List Entity) (log : List Event) (id : TestCaseId) :
    (timelinesOf entities log id).map (·.entity) = entities.filter (involves log id) := by
  rw [timelinesOf, List.map_map]
  exact List.map_id _

theorem timelines_ascending (hids : (entities.map (·.id)).Pairwise (· < ·)) :
    ((timelinesOf entities log id).map (·.entity.id)).Pairwise (· < ·) := by
  rw [timelinesOf, List.map_map]
  exact hids.sublist (List.filter_sublist.map _)

/-- The test case involves the entities of its events. -/
theorem involved_of_event (hknown : ∀ e ∈ log, e.entity ∈ entities.map (·.id)) (id : TestCaseId) :
    ∀ e ∈ log.filter (fun e => e.testCase == id),
      e.entity ∈ (entities.filter (involves log id)).map (·.id) := by
  intro e he
  obtain ⟨hlog, hcase⟩ := List.mem_filter.mp he
  obtain ⟨x, hx, hid⟩ := List.mem_map.mp (hknown e hlog)
  refine List.mem_map.mpr ⟨x, List.mem_filter.mpr ⟨hx, ?_⟩, hid⟩
  exact involves_iff.mpr (.inr ⟨e, hlog, eq_of_beq hcase, hid.symm⟩)

/-- No event is lost and none is doubled. -/
theorem events_timelines_perm (hids : (entities.map (·.id)).Nodup)
    (hknown : ∀ e ∈ log, e.entity ∈ entities.map (·.id)) :
    ((timelinesOf entities log id).flatMap (·.events)).Perm
      (log.filter fun e => e.testCase == id) := by
  have hdealt := Timeline.perm_of_dealt (hids.sublist (List.filter_sublist.map _))
    (involved_of_event hknown id)
  simp only [List.filter_filter] at hdealt
  rw [timelinesOf, List.flatMap_map]
  refine (List.Perm.flatMap_left _ fun x _ => timelineOf_perm log id x).trans ?_
  refine (List.Perm.of_eq ?_).trans hdealt
  exact List.flatMap_congr fun x _ => List.filter_congr fun e _ => Bool.and_comm _ _

theorem mem_timelineOf_iff {e : Event} {x : Entity} :
    e ∈ (timelineOf log id x).events ↔ e ∈ log ∧ e.testCase = id ∧ e.entity = x.id := by
  rw [(timelineOf_perm log id x).mem_iff, eventsOf, List.mem_filter, Bool.and_eq_true, beq_iff_eq,
    beq_iff_eq]

/-- An event is in the timeline of its entity, and in no other one. -/
theorem existsUnique_timeline (hids : (entities.map (·.id)).Nodup)
    (hknown : ∀ e ∈ log, e.entity ∈ entities.map (·.id)) {e : Event} (he : e ∈ log)
    (hcase : e.testCase = id) : ∃! l, l ∈ timelinesOf entities log id ∧ e ∈ l.events := by
  obtain ⟨x, hx, hid⟩ := List.mem_map.mp
    (involved_of_event hknown id e (List.mem_filter.mpr ⟨he, beq_iff_eq.mpr hcase⟩))
  refine ⟨timelineOf log id x, ⟨List.mem_map_of_mem hx, ?_⟩, ?_⟩
  · exact mem_timelineOf_iff.mpr ⟨he, hcase, hid.symm⟩
  · rintro l ⟨hl, hel⟩
    obtain ⟨y, hy, rfl⟩ := List.mem_map.mp hl
    obtain ⟨-, -, hey⟩ := mem_timelineOf_iff.mp hel
    rw [List.inj_on_of_nodup_map hids (List.mem_filter.mp hy).1 (List.mem_filter.mp hx).1
      (hey.symm.trans hid.symm)]

/-- Metrics of these timelines deal out the events of the test case. -/
theorem partitions_ofTimelines (hids : (entities.map (·.id)).Pairwise (· < ·))
    (hknown : ∀ e ∈ log, e.entity ∈ entities.map (·.id)) (testCase : Option TestCase)
    (samples : List CountSample) :
    (ofTimelines id testCase (timelinesOf entities log id) samples).Partitions entities log id where
  testCaseId := rfl
  ascending := timelines_ascending hids
  entities x := by
    show x ∈ (timelinesOf entities log id).map (·.entity) ↔ _
    rw [entities_timelines, List.mem_filter, involves_iff]
  events := List.forall_mem_map.mpr fun x _ => timelineOf_perm log id x
  ordered := List.forall_mem_map.mpr fun x _ => Timeline.sortEvents_sorted _
  stable := List.forall_mem_map.mpr fun x _ t => Timeline.filter_sortEvents _ t
  all := events_timelines_perm (hids.imp Int.ne_of_lt) hknown
  once e he hcase := existsUnique_timeline (hids.imp Int.ne_of_lt) hknown he hcase
  eventCounts := by
    refine List.map_congr_left fun t _ => ?_
    show (t, (List.flatMap (·.events) (timelinesOf entities log id)).countP _) = _
    rw [(events_timelines_perm (hids.imp Int.ne_of_lt) hknown).countP_eq, List.countP_filter]
    refine congrArg (t, ·) (List.countP_congr fun e _ => ?_)
    rw [Bool.and_comm]
  stages := by
    refine List.map_congr_left fun stage _ => ?_
    show _ = (stage, DurationStats.ofSamples (((timelinesOf entities log id).map (·.entity)).filterMap _))
    rw [List.filterMap_map]
    refine congrArg (fun l => (stage, DurationStats.ofSamples l)) (List.filterMap_congr ?_)
    exact List.forall_mem_map.mpr fun x _ => duration_timelineOf stage x

end CaseMetrics

section

variable {σ : Type} [EventStore σ] {s : σ} {entities : List Entity} {log : List Event}

open CaseMetrics

/-- A store that answers from rows collects the timelines of those rows that the test case involves. -/
theorem Answers.collect_eq (h : Answers s entities log) (id : TestCaseId) :
    ∃ testCase samples, (EventStore.counts id).perform s = (.ok samples, s) ∧
      CaseMetrics.collect id s =
        (if (entities.filter (involves log id)).isEmpty then .error (nothingObserved id)
          else .ok (ofTimelines id testCase
            (timelinesOf entities log id) samples), s) := by
  obtain ⟨carried, hbyId, hcarried⟩ := h.byId _ (nodup_carriedIds
    (entities.filter fun x => x.testCase == id) (log.filter fun e => e.testCase == id))
  obtain ⟨samples, hsamples⟩ := h.counts id
  obtain ⟨testCase, htestCase⟩ := h.testCase id
  have hrows := own_append_carried_perm (h.ascending.imp Int.ne_of_lt) hcarried
  have hnone : carriedIds (entities.filter fun x => x.testCase == id)
      (log.filter fun e => e.testCase == id) = [] → carried = [] := by
    intro hnil
    rw [hnil] at hcarried
    simpa using hcarried
  have hempty : ((entities.filter fun x => x.testCase == id) ++ carried).isEmpty =
      (entities.filter (involves log id)).isEmpty := by
    rw [Bool.eq_iff_iff, List.isEmpty_iff_length_eq_zero, List.isEmpty_iff_length_eq_zero,
      hrows.length_eq]
  have hbuilt : Timeline.build ((entities.filter fun x => x.testCase == id) ++ carried)
      (log.filter fun e => e.testCase == id) =
        timelinesOf entities log id := by
    rw [timelinesOf, Timeline.build_eq_of_perm hrows (h.ascending.sublist (List.filter_sublist.map _))]
    refine List.map_congr_left fun x _ => ?_
    rw [timelineOf, eventsOf, List.filter_filter]
    exact congrArg (fun l => Timeline.mk x (Timeline.sortEvents l))
      (List.filter_congr fun e _ => Bool.and_comm _ _)
  refine ⟨testCase, samples, hsamples, ?_⟩
  rw [collect_of_answers (h.own id) (h.events id) hbyId hnone hsamples htestCase, hempty, hbuilt]

/-- If the test case involves a row, there are metrics: what they count and the durations that they
summarize are found without sorting anything. -/
theorem Answers.collect_found (h : Answers s entities log) (id : TestCaseId)
    (hsome : entities.filter (involves log id) ≠ []) :
    ∃ m samples, CaseMetrics.collect id s = (.ok m, s) ∧
      (EventStore.counts id).perform s = (.ok samples, s) ∧
      (∀ type, m.count type = log.countP fun e => e.testCase == id && e.type == type) ∧
      (∀ stage, m.stage stage =
        .ofSamples ((entities.filter (involves log id)).filterMap (lasting log id stage))) ∧
      m.peaks = .ofSamples samples := by
  obtain ⟨testCase, samples, hsamples, hcollect⟩ := h.collect_eq id
  rw [if_neg fun hempty => hsome (List.isEmpty_iff.mp hempty)] at hcollect
  have hparts : (ofTimelines id testCase (timelinesOf entities log id) samples).Partitions entities log id :=
    partitions_ofTimelines h.ascending h.known testCase samples
  refine ⟨_, samples, hcollect, hsamples, fun type => ?_, fun stage => ?_, rfl⟩
  · rw [count, hparts.eventCounts]
    cases type <;> rfl
  · rw [stage_ofTimelines, timelinesOf, List.filterMap_map]
    exact congrArg _ (List.filterMap_congr fun x _ => duration_timelineOf stage x)

/-- A test case that involves no row has none, and no event. -/
theorem Answers.ne_of_none_involved (h : Answers s entities log) {id : TestCaseId}
    (hnone : entities.filter (involves log id) = []) :
    (∀ x ∈ entities, x.testCase ≠ id) ∧ ∀ e ∈ log, e.testCase ≠ id := by
  have hapart := List.filter_eq_nil_iff.mp hnone
  constructor
  · exact fun x hx hcase => hapart x hx (involves_iff.mpr (.inl hcase))
  · intro e he hcase
    obtain ⟨x, hx, hid⟩ := List.mem_map.mp (h.known e he)
    exact hapart x hx (involves_iff.mpr (.inr ⟨e, he, hcase, hid.symm⟩))

/-- Collecting from a store that answers from rows deals out the events among them. -/
theorem Answers.collect_dealt (h : Answers s entities log) (id : TestCaseId) :
    ∃ answer, CaseMetrics.collect id s = (answer, s) ∧ Dealt entities log id answer := by
  obtain ⟨testCase, samples, -, hcollect⟩ := h.collect_eq id
  refine ⟨_, hcollect, ?_⟩
  by_cases hnone : entities.filter (involves log id) = []
  · rw [if_pos (List.isEmpty_iff.mpr hnone)]
    obtain ⟨hentities, hevents⟩ := h.ne_of_none_involved hnone
    exact .nothing hentities hevents
  · rw [if_neg fun hempty => hnone (List.isEmpty_iff.mp hempty)]
    refine .metrics ?_ (partitions_ofTimelines h.ascending h.known testCase samples)
    obtain ⟨x, hx⟩ := List.exists_mem_of_ne_nil _ hnone
    obtain ⟨hmem, hinvolved⟩ := List.mem_filter.mp hx
    rcases involves_iff.mp hinvolved with hcase | ⟨e, he, hcase, -⟩
    · exact .inl ⟨x, hmem, hcase⟩
    · exact .inr ⟨e, he, hcase⟩

end

end StorageLifecycle
