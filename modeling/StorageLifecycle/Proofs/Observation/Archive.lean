import StorageLifecycle.Proofs.Crew.Attendance
import StorageLifecycle.Proofs.Metrics.Collecting
import StorageLifecycle.Proofs.Store.Views

/-!
# Stores as archives of test cases

An observation opens a test case, stores what belongs to it, closes it and reads everything back. A store
that can be trusted with this gives a new test case that nothing belongs to yet, reads back just what it
was given, and finds the entity of every event. The metrics that are collected from such a store count
each event of the test case once.
-/

namespace StorageLifecycle

/-- How a store is seen by an observation: a view of its events and samples that tells to which test case
one belongs, and the entities that have rows. -/
structure CaseView (σ ε κ : Type) extends StoreView σ ε κ where
  eventOf : TestCaseId → ε → Bool
  sampleOf : TestCaseId → κ → Bool
  has : σ → EntityId → Prop
  /-- A store that may open a test case. -/
  ready : σ → Prop
  /-- A store in which the rows of a test case are as they should be. -/
  sound : TestCaseId → σ → Prop

/-- Those that satisfy a test, of rows in the form in which they are kept. -/
theorem filter_kept {ρ ε : Type} (rows : List ρ) (form : ρ → ε) (p : ε → Bool) :
    (↑(rows.map form) : Multiset ε).filter (fun e => p e = true) =
      ↑((rows.filter fun r => p (form r)).map form) := by
  rw [Multiset.filter_coe, List.filter_map]
  simp [Function.comp_def]

namespace CaseView

variable {σ ε κ : Type} (v : CaseView σ ε κ)

/-- The events that are kept for a test case. -/
def eventsOf (s : σ) (id : TestCaseId) : Multiset ε := (v.events s).filter fun e => v.eventOf id e = true

/-- The samples that are kept for a test case. -/
def samplesOf (s : σ) (id : TestCaseId) : Multiset κ :=
  (v.samples s).filter fun c => v.sampleOf id c = true

/-- A test case that was closed with this success. -/
structure Closed (id : TestCaseId) (success : Bool) (tc : TestCase) : Prop where
  id : tc.id = id
  ended : tc.endedAt.isSome = true
  success : tc.success = some success

/-- What is asked of the store of an observation that closes its test case at this moment. -/
structure Archives [EventStore σ] (now : Instant) : Prop where
  atomic : v.Atomic
  readable : Readable σ
  event : ∀ {id : TestCaseId} {e : Event}, e.testCase = id → v.eventOf id (v.event e) = true
  sample : ∀ {id : TestCaseId} {c : CountSample}, c.testCase = id → v.sampleOf id (v.sample c) = true
  /-- Nothing belongs to a new test case yet. -/
  opens : ∀ {s s' : σ} {tc : TestCase} {id : TestCaseId}, v.ready s →
    (EventStore.createTestCase tc).perform s = (.ok id, s') →
    v.sound id s' ∧ v.eventsOf s' id = 0 ∧ v.samplesOf s' id = 0
  lasting : ∀ id : TestCaseId, Lasting (v.sound id)
  closes : ∀ {id : TestCaseId} {success : Bool} {s s' : σ}, v.sound id s →
    (EventStore.finishTestCase id success now).perform s = (.ok (), s') →
    v.sound id s' ∧ v.Gained s s' 0 0 ∧
      ∀ {tc : Option TestCase} {s'' : σ}, (EventStore.testCase id).perform s' = (.ok tc, s'') →
        ∃ closed, tc = some closed ∧ Closed id success closed
  own : ∀ {id : TestCaseId} {own : List Entity} {s s' : σ}, v.sound id s →
    (EventStore.entities id).perform s = (.ok own, s') → (own.map (·.id)).Nodup
  log : ∀ {id : TestCaseId} {events : List Event} {s s' : σ}, v.sound id s →
    (EventStore.events id).perform s = (.ok events, s') →
    v.batch events = v.eventsOf s id ∧ ∀ e ∈ events, v.has s e.entity
  byId : ∀ {id : TestCaseId} {ids : List EntityId} {rows : List Entity} {s s' : σ}, v.sound id s →
    ids.Nodup → (EventStore.entitiesById ids).perform s = (.ok rows, s') →
    (rows.map (·.id)).Nodup ∧ rows.map (·.id) ⊆ ids ∧ ∀ i ∈ ids, v.has s i → i ∈ rows.map (·.id)
  series : ∀ {id : TestCaseId} {samples : List CountSample} {s s' : σ},
    (EventStore.counts id).perform s = (.ok samples, s') →
    samples.length = (v.samplesOf s id).card

variable {v} {now : Instant} {s s' : σ} {id : TestCaseId}

/-! ## Growing -/

theorem eventsOf_of_gained {E : Multiset ε} {S : Multiset κ} (h : v.Gained s s' E S)
    (hE : ∀ e ∈ E, v.eventOf id e = true) : v.eventsOf s' id = v.eventsOf s id + E := by
  unfold eventsOf
  rw [h.events, Multiset.filter_add, Multiset.filter_eq_self.mpr hE]

theorem samplesOf_of_gained {E : Multiset ε} {S : Multiset κ} (h : v.Gained s s' E S)
    (hS : ∀ c ∈ S, v.sampleOf id c = true) : v.samplesOf s' id = v.samplesOf s id + S := by
  unfold samplesOf
  rw [h.samples, Multiset.filter_add, Multiset.filter_eq_self.mpr hS]

/-! ## Collecting -/

variable [EventStore σ]

/-- The entities that were read are different, and the events are theirs. -/
theorem Archives.gathered (h : v.Archives now) (hs : v.sound id s) {own carried : List Entity}
    {events : List Event} (hg : CaseMetrics.Gathered id s own carried events) :
    ((own ++ carried).map (·.id)).Nodup ∧ ∀ e ∈ events, e.entity ∈ (own ++ carried).map (·.id) := by
  have hown := h.own hs hg.ofCase
  obtain ⟨_, hknown⟩ := h.log hs hg.log
  have hcarried : (carried.map (·.id)).Nodup ∧
      carried.map (·.id) ⊆ CaseMetrics.carriedIds own events ∧
      ∀ i ∈ CaseMetrics.carriedIds own events, v.has s i → i ∈ carried.map (·.id) := by
    rcases hg.byId with ⟨hnone, rfl⟩ | hread
    · rw [hnone]
      exact ⟨List.nodup_nil, List.Subset.refl _, fun i hi => nomatch hi⟩
    · exact h.byId hs (CaseMetrics.nodup_carriedIds own events) hread
  obtain ⟨hnodup, hsubset, hfound⟩ := hcarried
  rw [List.map_append]
  constructor
  · rw [List.nodup_append]
    refine ⟨hown, hnodup, ?_⟩
    rintro i hi j hj rfl
    exact (CaseMetrics.mem_carriedIds.mp (hsubset hj)).2 hi
  · intro e he
    apply List.mem_append.mpr
    by_cases hmine : e.entity ∈ own.map (·.id)
    · exact Or.inl hmine
    · have hin := CaseMetrics.mem_carriedIds.mpr ⟨List.mem_map_of_mem he, hmine⟩
      exact Or.inr (hfound _ hin (hknown e he))

/-- Metrics count each event and each sample of the test case once. -/
theorem Archives.metrics (h : v.Archives now) (hs : v.sound id s) {m : CaseMetrics}
    (hc : CaseMetrics.collect id s = (.ok m, s')) :
    s' = s ∧ v.batch (m.timelines.flatMap (·.events)) = v.eventsOf s id ∧
      (m.eventCounts.map (·.2)).sum = (v.eventsOf s id).card ∧
      m.peaks.samples = (v.samplesOf s id).card := by
  obtain ⟨hsame, hcollected⟩ := CaseMetrics.collect_collected h.readable hc
  cases hcollected with
  | @found own carried events samples testCase hg hsamples =>
      obtain ⟨hids, hknown⟩ := h.gathered hs hg
      have hperm := Timeline.build_events_perm hids hknown
      have hbatch := (h.log hs hg.log).1
      have hcard : (v.eventsOf s id).card = events.length := by
        rw [← hbatch, StoreView.card_batch]
      refine ⟨hsame, ?_, ?_, h.series hsamples⟩
      · rw [← hbatch]
        exact Multiset.coe_eq_coe.mpr (hperm.map _)
      · exact (CaseMetrics.sum_countEvents _).trans (hperm.length_eq.trans hcard.symm)

/-- Without metrics there is no entity and no event of the test case. -/
theorem Archives.nothing (h : v.Archives now) (hs : v.sound id s) {what : String}
    (hc : CaseMetrics.collect id s = (.error (.runNotFound what), s')) :
    s' = s ∧ v.eventsOf s id = 0 ∧ (EventStore.entities id).perform s = (.ok [], s) ∧
      (EventStore.events id).perform s = (.ok [], s) := by
  obtain ⟨hsame, hcollected⟩ := CaseMetrics.collect_collected h.readable hc
  cases hcollected with
  | @nothing own carried events hg hnone =>
      obtain ⟨_, hknown⟩ := h.gathered hs hg
      rw [hnone] at hknown
      obtain ⟨rfl, rfl⟩ := List.append_eq_nil_iff.mp hnone
      have hevents : events = [] :=
        List.eq_nil_iff_forall_not_mem.mpr fun e he => nomatch hknown e he
      subst hevents
      exact ⟨hsame, (h.log hs hg.log).1.symm, hg.ofCase, hg.log⟩

end CaseView

end StorageLifecycle
