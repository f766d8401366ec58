import StorageLifecycle.Proofs.Metrics.Partition

/-!
# When every stage is measured

Statistics leave out durations that run backwards, and nothing tells how many were left out. When what
starts a stage of an entity is never later than what ends it, nothing is left out: a stage counts all
entities of the test case with both of its ends.
-/

namespace StorageLifecycle

theorem Instant.mem_of_earliest? {moments : List Instant} {t : Instant}
    (h : earliest? moments = some t) : t ∈ moments := by
  obtain ⟨nanos, hmin, rfl⟩ := Option.map_eq_some_iff.mp h
  obtain ⟨u, hu, rfl⟩ := List.mem_map.mp (List.min?_mem hmin)
  exact hu

theorem Instant.earliest?_isSome {moments : List Instant} :
    (earliest? moments).isSome = !moments.isEmpty := by
  cases moments <;> rfl

theorem Interval.isNegative_since {start stop : Instant} (h : start ≤ stop) :
    (stop.since start).isNegative = false :=
  decide_eq_false (Int.not_lt.mpr (Int.sub_nonneg_of_le h))

namespace CaseMetrics

/-- Is there an event of the test case that has this type and names the entity? -/
def logged (log : List Event) (id : TestCaseId) (x : Entity) (type : EventType) : Bool :=
  log.any fun e => e.testCase == id && e.entity == x.id && e.type == type

/-- No duration runs backwards, and each stage counts all entities with both of its ends. -/
structure Covers (entities : List Entity) (log : List Event) (id : TestCaseId) (m : CaseMetrics) :
    Prop where
  forward : ∀ l ∈ m.timelines, ∀ stage d, l.duration stage = some d → d.isNegative = false
  count : ∀ stage, (m.stage stage).count = entities.countP fun x =>
    logged log id x stage.bounds.1 && logged log id x stage.bounds.2

/-- What starts a stage of an entity is not later than what ends it. -/
def Timely (log : List Event) (id : TestCaseId) : Prop :=
  ∀ stage : Stage, ∀ a ∈ log, ∀ b ∈ log, a.testCase = id → b.testCase = id → a.entity = b.entity →
    a.type = stage.bounds.1 → b.type = stage.bounds.2 → a.timestamp ≤ b.timestamp

variable {entities : List Entity} {log : List Event} {id : TestCaseId}

theorem logged_iff {x : Entity} {type : EventType} : logged log id x type = true ↔
    ∃ e ∈ log, e.testCase = id ∧ e.entity = x.id ∧ e.type = type := by
  simp [logged, and_assoc]

/-- A stage lasts for an entity when both of its ends are logged. -/
theorem isSome_lasting (stage : Stage) (x : Entity) : (lasting log id stage x).isSome =
    (logged log id x stage.bounds.1 && logged log id x stage.bounds.2) := by
  have hlogged : ∀ type, logged log id x type = (Instant.earliest?
      (((eventsOf log id x.id).filter fun e => e.type == type).map (·.timestamp))).isSome := by
    intro type
    rw [Instant.earliest?_isSome, Bool.eq_iff_iff, logged_iff]
    simp [eventsOf, and_comm]
  rw [hlogged, hlogged, lasting]
  dsimp only
  cases Instant.earliest? (((eventsOf log id x.id).filter fun e => e.type == stage.bounds.1).map
      (·.timestamp)) with
  | none => rfl
  | some start =>
      cases Instant.earliest? (((eventsOf log id x.id).filter fun e => e.type == stage.bounds.2).map
        (·.timestamp)) <;> rfl

/-- A stage lasts from one event of the entity to another. -/
theorem events_of_lasting {stage : Stage} {x : Entity} {d : Interval}
    (h : lasting log id stage x = some d) : ∃ a ∈ eventsOf log id x.id, ∃ b ∈ eventsOf log id x.id,
      a.type = stage.bounds.1 ∧ b.type = stage.bounds.2 ∧ d = b.timestamp.since a.timestamp := by
  have hevent : ∀ {type t}, Instant.earliest?
      (((eventsOf log id x.id).filter fun e => e.type == type).map (·.timestamp)) = some t →
        ∃ e ∈ eventsOf log id x.id, e.type = type ∧ e.timestamp = t := by
    intro type t ht
    obtain ⟨e, he, rfl⟩ := List.mem_map.mp (Instant.mem_of_earliest? ht)
    obtain ⟨hmem, htype⟩ := List.mem_filter.mp he
    exact ⟨e, hmem, eq_of_beq htype, rfl⟩
  unfold lasting at h
  obtain ⟨start, hstart, h⟩ := Option.bind_eq_some_iff.mp h
  obtain ⟨stop, hstop, h⟩ := Option.bind_eq_some_iff.mp h
  cases h
  obtain ⟨a, ha, hatype, rfl⟩ := hevent hstart
  obtain ⟨b, hb, hbtype, rfl⟩ := hevent hstop
  exact ⟨a, ha, b, hb, hatype, hbtype, rfl⟩

theorem Timely.isNegative_lasting (h : Timely log id) {stage : Stage} {x : Entity} {d : Interval}
    (hd : lasting log id stage x = some d) : d.isNegative = false := by
  obtain ⟨a, ha, b, hb, hstart, hstop, rfl⟩ := events_of_lasting hd
  simp only [eventsOf, List.mem_filter, Bool.and_eq_true, beq_iff_eq] at ha hb
  obtain ⟨ha, hacase, haentity⟩ := ha
  obtain ⟨hb, hbcase, hbentity⟩ := hb
  exact Interval.isNegative_since
    (h stage a ha b hb hacase hbcase (haentity.trans hbentity.symm) hstart hstop)

/-- The metrics of a log in which nothing ends before it starts leave nothing out. -/
theorem covers_ofTimelines (h : Timely log id) (testCase : Option TestCase) (samples : List CountSample) :
    (ofTimelines id testCase (timelinesOf entities log id) samples).Covers entities log id where
  forward := by
    refine List.forall_mem_map.mpr fun x _ stage d hd => ?_
    rw [duration_timelineOf] at hd
    exact h.isNegative_lasting hd
  count stage := by
    have hforward : ∀ d ∈ (timelinesOf entities log id).filterMap fun l => l.duration stage,
        (!d.isNegative) = true := by
      intro d hd
      obtain ⟨l, hl, hd⟩ := List.mem_filterMap.mp hd
      obtain ⟨x, _, rfl⟩ := List.mem_map.mp hl
      rw [duration_timelineOf] at hd
      rw [h.isNegative_lasting hd]
      rfl
    rw [stage_ofTimelines, DurationStats.count_ofSamples, List.filter_eq_self.mpr hforward,
      List.length_filterMap_eq_countP, timelinesOf, List.countP_map, List.countP_filter]
    refine List.countP_congr fun x _ => ?_
    simp only [Function.comp_apply, duration_timelineOf, isSome_lasting, Bool.and_eq_true]
    -- What is logged for an entity involves it.
    refine ⟨And.left, fun hboth => ⟨hboth, ?_⟩⟩
    obtain ⟨e, he, hcase, hentity, -⟩ := logged_iff.mp hboth.1
    exact involves_iff.mpr (.inr ⟨e, he, hcase, hentity⟩)

end CaseMetrics

section

open CaseMetrics

/-- What is collected from such a log leaves nothing out, and is there unless nothing was stored. -/
theorem Answers.collect_covers {σ : Type} [EventStore σ] {s : σ} {entities : List Entity}
    {log : List Event} {id : TestCaseId} (h : Answers s entities log) (htimely : Timely log id) :
    ∃ answer, CaseMetrics.collect id s = (answer, s) ∧ Dealt entities log id answer ∧
      ∀ m, answer = .ok m → m.Covers entities log id := by
  obtain ⟨answer, hanswer, hdealt⟩ := h.collect_dealt id
  obtain ⟨testCase, samples, -, hcollect⟩ := h.collect_eq id
  refine ⟨answer, hanswer, hdealt, ?_⟩
  rintro m rfl
  rw [hanswer] at hcollect
  have hm := congrArg Prod.fst hcollect
  dsimp only at hm
  split at hm
  · exact nomatch hm
  · cases hm
    exact covers_ofTimelines htimely testCase samples

end

end StorageLifecycle
