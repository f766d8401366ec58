import Mathlib.Data.List.Forall2
import StorageLifecycle.Proofs.Metrics.Partition

/-!
# The metrics of a run

The metrics of a run are those of its test cases, in the order of their starts. A test case of which
nothing was stored is left out, and the collection tells that by the error that it got for it: an error of
the store is another one and ends the collection. To say that no error of the store is passed over, a store
is asked through another one that keeps what came of each question.
-/

namespace StorageLifecycle

/-! ## What came of each question -/

/-- A store, and what came of the operations that it was asked for, in their order: nothing to note, or an
error. -/
structure Monitored (σ : Type) where
  store : σ
  outcomes : List (Option StoreError)

namespace Monitored

variable {σ α β : Type}

/-- The error of an answer, if it is one. -/
def outcome : Except StoreError α → Option StoreError
  | .ok _ => none
  | .error e => some e

/-- Carries the operation out, and notes what came of it. -/
def noting (op : StoreM σ α) : StoreM (Monitored σ) α := fun h =>
  let (answer, s) := op h.store
  (answer, ⟨s, h.outcomes ++ [outcome answer]⟩)

instance [EventStore σ] : EventStore (Monitored σ) where
  saveEntities batch := noting (EventStore.saveEntities batch)
  saveEvents batch := noting (EventStore.saveEvents batch)
  saveCounts batch := noting (EventStore.saveCounts batch)
  createTestCase tc := noting (EventStore.createTestCase tc)
  finishTestCase id success now := noting (EventStore.finishTestCase id success now)
  testCase id := noting (EventStore.testCase id)
  testCasesOfRun run := noting (EventStore.testCasesOfRun run)
  entities id := noting (EventStore.entities id)
  entitiesById ids := noting (EventStore.entitiesById ids)
  events id := noting (EventStore.events id)
  counts id := noting (EventStore.counts id)
  resolved h := EventStore.resolved h.store

/-- The error of the store that a collection ends with, if it ends with one. -/
def failure : Except CollectorError α → List (Option StoreError)
  | .error (.store e) => [some e]
  | _ => []

/-- The first collection does on a store what the second one does without being listened to. Of the
operations that it asks for all but the last one succeed; and the last one fails if, and only if, the
collection ends with an error of the store, and then with the error of this operation. -/
def EndsAtError (c : CollectM (Monitored σ) α) (c' : CollectM σ α) : Prop :=
  ∀ h : Monitored σ, ∃ n, c h = ((c' h.store).1,
    ⟨(c' h.store).2, h.outcomes ++ (List.replicate n none ++ failure (c' h.store).1)⟩)

theorem EndsAtError.of_ended {c : CollectM (Monitored σ) α} {c' : CollectM σ α}
    (hc : ∀ h, c h = ((c' h.store).1, ⟨(c' h.store).2, h.outcomes⟩))
    (hanswer : ∀ s, failure (c' s).1 = []) : EndsAtError c c' := by
  intro h
  refine ⟨0, ?_⟩
  rw [hanswer, List.replicate_zero, List.append_nil, List.append_nil]
  exact hc h

theorem EndsAtError.pure (a : α) : EndsAtError (Pure.pure a : CollectM (Monitored σ) α) (Pure.pure a) :=
  .of_ended (fun _ => rfl) fun _ => rfl

/-- That nothing was found is no error of the store. -/
theorem EndsAtError.fail (what : String) :
    EndsAtError (CollectM.fail (.runNotFound what) : CollectM (Monitored σ) α) (.fail (.runNotFound what)) :=
  .of_ended (fun _ => rfl) fun _ => rfl

theorem EndsAtError.read (op : StoreM σ α) : EndsAtError (.read (noting op)) (.read op) := by
  intro h
  unfold CollectM.read noting
  cases op h.store with
  | mk answer s =>
      cases answer with
      | ok a => exact ⟨1, rfl⟩
      | error e => exact ⟨0, rfl⟩

/-- What comes after questions that were all answered. -/
theorem EndsAtError.after {c : CollectM (Monitored σ) α} {c' : CollectM σ α} (hc : EndsAtError c c') (s : σ)
    (outcomes : List (Option StoreError)) (n : Nat) :
    ∃ k, c ⟨s, outcomes ++ (List.replicate n none ++ [])⟩ = ((c' s).1,
      ⟨(c' s).2, outcomes ++ (List.replicate k none ++ failure (c' s).1)⟩) := by
  obtain ⟨k, hk⟩ := hc ⟨s, outcomes ++ (List.replicate n none ++ [])⟩
  refine ⟨n + k, hk.trans ?_⟩
  simp only [List.replicate_add, List.append_nil, List.append_assoc]

theorem EndsAtError.bind {c : CollectM (Monitored σ) α} {c' : CollectM σ α} (hc : EndsAtError c c')
    {f : α → CollectM (Monitored σ) β} {f' : α → CollectM σ β} (hf : ∀ a, EndsAtError (f a) (f' a)) :
    EndsAtError (c >>= f) (c' >>= f') := by
  intro h
  obtain ⟨n, hfirst⟩ := hc h
  cases hrun : c' h.store with
  | mk answer s =>
      rw [hrun] at hfirst
      cases answer with
      | error e =>
          rw [run_bind_error f hfirst, run_bind_error f' hrun]
          exact ⟨n, by cases e <;> rfl⟩
      | ok a =>
          rw [run_bind_ok f hfirst, run_bind_ok f' hrun]
          exact (hf a).after s h.outcomes n

theorem EndsAtError.map {c : CollectM (Monitored σ) α} {c' : CollectM σ α} (hc : EndsAtError c c')
    (f : α → β) : EndsAtError (f <$> c) (f <$> c') := by
  rw [map_eq_pure_bind, map_eq_pure_bind]
  exact hc.bind fun a => .pure (f a)

variable [EventStore σ]

theorem endsAtError_collect (id : TestCaseId) :
    EndsAtError (CaseMetrics.collect id : CollectM (Monitored σ) _) (CaseMetrics.collect id) := by
  unfold CaseMetrics.collect
  refine (EndsAtError.read (EventStore.entities id)).bind fun own => ?_
  refine (EndsAtError.read (EventStore.events id)).bind fun events => ?_
  split
  · exact .fail _
  -- the entities that only events name are asked for where there are any
  have hcarried : ∀ {f : List Entity → CollectM (Monitored σ) CaseMetrics}
      {f' : List Entity → CollectM σ CaseMetrics} {ids : List EntityId},
      (∀ entities, EndsAtError (f entities) (f' entities)) →
      EndsAtError (if ids.isEmpty then pure own >>= f
          else ((own ++ ·) <$> CollectM.read (EventStore.entitiesById ids)) >>= f)
        (if ids.isEmpty then pure own >>= f'
          else ((own ++ ·) <$> CollectM.read (EventStore.entitiesById ids)) >>= f') := by
    intro f f' ids hf
    split
    · exact (EndsAtError.pure own).bind hf
    · exact ((EndsAtError.read (EventStore.entitiesById ids)).map _).bind hf
  refine hcarried fun entities => ?_
  beta_reduce
  split
  · exact .fail _
  refine (EndsAtError.read (EventStore.counts id)).bind fun samples => ?_
  exact (EndsAtError.read (EventStore.testCase id)).bind fun testCase => .pure _

/-- A test case of which nothing was found is left out, and then the others are asked for. An error of the
store is not left out. -/
theorem endsAtError_collectCases (ids : List TestCaseId) :
    EndsAtError (RunMetrics.collectCases ids : CollectM (Monitored σ) _) (RunMetrics.collectCases ids) := by
  induction ids with
  | nil => exact .pure _
  | cons id rest ih =>
      intro h
      obtain ⟨n, hfirst⟩ := endsAtError_collect id h
      unfold RunMetrics.collectCases
      rw [hfirst]
      cases hrun : CaseMetrics.collect id h.store with
      | mk answer s =>
          match answer with
          | .ok m => exact (ih.map (m :: ·)).after s h.outcomes n
          | .error (.runNotFound what) => exact ih.after s h.outcomes n
          | .error (.store e) => exact ⟨n, rfl⟩

/-- To collect the metrics of a run ends at the first error of the store, and with this error. -/
theorem endsAtError_collectRun (run : String) :
    EndsAtError (RunMetrics.collect run : CollectM (Monitored σ) _) (RunMetrics.collect run) := by
  unfold RunMetrics.collect
  refine (EndsAtError.read (EventStore.testCasesOfRun run)).bind fun cases => ?_
  refine (endsAtError_collectCases _).bind fun metrics => ?_
  split
  · exact .fail _
  · exact .pure _

end Monitored

/-! ## The test cases of a run -/

/-- The first test case started earlier; or both started at one moment, and the first has the smaller id. -/
def TestCase.StartsBefore (a b : TestCase) : Prop :=
  a.startedAt < b.startedAt ∨ a.startedAt = b.startedAt ∧ a.id < b.id

/-- Was something stored for the test case: an entity of its own, or an event? -/
def Observed (entities : List Entity) (log : List Event) (id : TestCaseId) : Prop :=
  (∃ x ∈ entities, x.testCase = id) ∨ ∃ e ∈ log, e.testCase = id

instance (entities : List Entity) (log : List Event) : DecidablePred (Observed entities log) :=
  fun id => inferInstanceAs (Decidable ((∃ x ∈ entities, x.testCase = id) ∨ ∃ e ∈ log, e.testCase = id))

section

variable {σ : Type} [EventStore σ] {s : σ} {entities : List Entity} {log : List Event}
  {cases : List TestCase}

/-- The store keeps these test cases under different ids, and lists those of a run in the order of their
starts. -/
structure ListsRuns (s : σ) (cases : List TestCase) : Prop where
  ids : (cases.map (·.id)).Nodup
  ofRun : ∀ run, ∃ listed, (EventStore.testCasesOfRun run).perform s = (.ok listed, s) ∧
    listed.Perm (cases.filter fun tc => tc.runName == run) ∧ listed.Pairwise TestCase.StartsBefore

/-- What a run comes to: it is not found if nothing was stored for a test case of it. Otherwise its metrics
are those of its test cases for which something was stored, each once and in the order of their starts, and
each as it is collected by itself. -/
structure CollectsRun (s : σ) (entities : List Entity) (log : List Event) (cases : List TestCase)
    (run : String) : Prop where
  nothing : (∀ tc ∈ cases, tc.runName = run → ¬Observed entities log tc.id) →
    RunMetrics.collect run s = (.error (.runNotFound ("run " ++ run)), s)
  observed : (∃ tc ∈ cases, tc.runName = run ∧ Observed entities log tc.id) → ∃ listed metrics,
    RunMetrics.collect run s = (.ok ⟨run, metrics⟩, s) ∧
      (∀ tc, tc ∈ listed ↔ tc ∈ cases ∧ tc.runName = run ∧ Observed entities log tc.id) ∧
      (listed.map (·.id)).Nodup ∧ listed.Pairwise TestCase.StartsBefore ∧
      List.Forall₂ (fun tc m => CaseMetrics.collect tc.id s = (.ok m, s)) listed metrics

/-- The test cases for which something was stored are collected, and no others. -/
theorem Answers.collectCases_eq (h : Answers s entities log) (listed : List TestCase) :
    ∃ metrics, RunMetrics.collectCases (listed.map (·.id)) s = (.ok metrics, s) ∧
      List.Forall₂ (fun tc m => CaseMetrics.collect tc.id s = (.ok m, s))
        (listed.filter fun tc => Observed entities log tc.id) metrics := by
  induction listed with
  | nil => exact ⟨[], rfl, .nil⟩
  | cons tc rest ih =>
      obtain ⟨metrics, hrest, hmetrics⟩ := ih
      obtain ⟨answer, hcollect, hdealt⟩ := h.collect_dealt tc.id
      rw [List.map_cons, RunMetrics.collectCases]
      simp only [hcollect]
      cases hdealt with
      | nothing hentities hevents =>
          have hnone : ¬Observed entities log tc.id := by
            rintro (⟨x, hx, hcase⟩ | ⟨e, he, hcase⟩)
            · exact hentities x hx hcase
            · exact hevents e he hcase
          refine ⟨metrics, hrest, ?_⟩
          rwa [List.filter_cons_of_neg (by simpa using hnone)]
      | @metrics m hsome _ =>
          refine ⟨m :: metrics, ?_, ?_⟩
          · show (Functor.map (m :: ·) (RunMetrics.collectCases _) : CollectM σ _) s = _
            rw [map_eq_pure_bind, run_bind_ok _ hrest]
            rfl
          · have hobserved : Observed entities log tc.id := hsome
            rw [List.filter_cons_of_pos (by simpa using hobserved)]
            exact .cons hcollect hmetrics

theorem Answers.collectsRun (h : Answers s entities log) (hlists : ListsRuns s cases) (run : String) :
    CollectsRun s entities log cases run := by
  obtain ⟨listed, hlisted, hperm, hstarts⟩ := hlists.ofRun run
  obtain ⟨metrics, hcases, hmetrics⟩ := h.collectCases_eq listed
  have hrun : RunMetrics.collect run s =
      (if metrics.isEmpty then .error (.runNotFound ("run " ++ run)) else .ok ⟨run, metrics⟩, s) := by
    unfold RunMetrics.collect
    rw [CollectM.read_of_ok hlisted, run_bind_ok _ hcases]
    split <;> rfl
  have hmem : ∀ tc, tc ∈ listed.filter (fun tc => Observed entities log tc.id) ↔
      tc ∈ cases ∧ tc.runName = run ∧ Observed entities log tc.id := by
    intro tc
    rw [List.mem_filter, hperm.mem_iff, List.mem_filter, beq_iff_eq, decide_eq_true_eq, and_assoc]
  constructor
  · intro hnone
    have hnil : listed.filter (fun tc => Observed entities log tc.id) = [] := by
      refine List.eq_nil_iff_forall_not_mem.mpr fun tc htc => ?_
      obtain ⟨hin, hname, hobserved⟩ := (hmem tc).mp htc
      exact hnone tc hin hname hobserved
    rw [hnil] at hmetrics
    rw [hrun, List.forall₂_nil_left_iff.mp hmetrics]
    rfl
  · rintro ⟨tc, htc⟩
    have hsome : metrics ≠ [] := by
      rintro rfl
      have hnil := List.forall₂_nil_right_iff.mp hmetrics
      exact List.ne_nil_of_mem ((hmem tc).mpr htc) hnil
    refine ⟨_, metrics, ?_, hmem, ?_, hstarts.filter _, hmetrics⟩
    · rw [hrun, if_neg (by rwa [List.isEmpty_iff])]
    · have hids : (listed.map (·.id)).Nodup :=
        (hperm.map _).nodup_iff.mpr (hlists.ids.sublist (List.filter_sublist.map _))
      exact hids.sublist (List.filter_sublist.map _)

end

end StorageLifecycle
