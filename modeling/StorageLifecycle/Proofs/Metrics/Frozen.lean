import StorageLifecycle.Proofs.Metrics.Renumbering
import StorageLifecycle.Proofs.Store.Identity

/-!
# The metrics of a test case that nothing is written to

Test cases share a store, and they are not disjoint in it: a claim that a later test case observes again
is resolved to the row that an earlier one stored. The metrics of the earlier test case stay what they
were all the same. The rows of a store are only ever added to, the new ones belong to other test cases,
and no event of the earlier one can name an id that was not handed out yet.
-/

namespace StorageLifecycle

/-- Does the operation save a row of the test case, or close it? -/
def StoreWrite.Concerns (b : TestCaseId) : StoreWrite → Prop
  | saveEntities batch => ∃ e ∈ batch, e.testCase = b
  | saveEvents batch => ∃ e ∈ batch, e.testCase = b
  | saveCounts batch => ∃ c ∈ batch, c.testCase = b
  | createTestCase _ => False
  | finishTestCase id _ _ => id = b

instance (b : TestCaseId) : DecidablePred (StoreWrite.Concerns b)
  | .saveEntities batch => inferInstanceAs (Decidable (∃ e ∈ batch, e.testCase = b))
  | .saveEvents batch => inferInstanceAs (Decidable (∃ e ∈ batch, e.testCase = b))
  | .saveCounts batch => inferInstanceAs (Decidable (∃ c ∈ batch, c.testCase = b))
  | .createTestCase _ => inferInstanceAs (Decidable False)
  | .finishTestCase id _ _ => inferInstanceAs (Decidable (id = b))

section

variable {σ : Type} [EventStore σ]

/-- A call that writes nothing to a test case: it reads, it is about other test cases, or the store
refuses it. -/
def StoreCall.Spares (b : TestCaseId) (s : σ) : StoreCall → Prop
  | read _ => True
  | write w => ¬w.Concerns b ∨ (w.run.perform s).1.isOk = false

/-- Calls none of which writes anything to a test case, each made of the store that the calls before it
left behind. -/
def StoreCall.AllSpare (b : TestCaseId) (s : σ) : List StoreCall → Prop
  | [] => True
  | c :: rest => c.Spares b s ∧ AllSpare b (c.after s) rest

instance (b : TestCaseId) (s : σ) : DecidablePred (StoreCall.Spares b s)
  | .read _ => inferInstanceAs (Decidable True)
  | .write w => inferInstanceAs (Decidable (¬w.Concerns b ∨ (w.run.perform s).1.isOk = false))

instance StoreCall.decidableAllSpare (b : TestCaseId) (s : σ) :
    (calls : List StoreCall) → Decidable (AllSpare b s calls)
  | [] => inferInstanceAs (Decidable True)
  | c :: rest =>
    have := decidableAllSpare b (c.after s) rest
    inferInstanceAs (Decidable (c.Spares b s ∧ AllSpare b (c.after s) rest))

end

namespace MemoryStore

variable {m m' m'' : MemoryStore} {b : TestCaseId}

/-- What the metrics of a test case are made from is the same in both stores. The second one may have
more rows of entities, of other test cases and under ids that no event of this one names. -/
structure Frozen (b : TestCaseId) (m m' : MemoryStore) : Prop where
  entities : ∃ added, m'.entities = m.entities ++ added ∧
    ∀ row ∈ added, row.testCase ≠ b ∧ row.id ∉ (m.eventsOf b).map (·.entity)
  events : m'.eventsOf b = m.eventsOf b
  counts : m'.countsOf b = m.countsOf b
  testCase : m'.testCase b = m.testCase b

theorem Frozen.refl (b : TestCaseId) (m : MemoryStore) : Frozen b m m :=
  ⟨⟨[], (List.append_nil _).symm, List.forall_mem_nil _⟩, rfl, rfl, rfl⟩

theorem Frozen.trans (h : Frozen b m m') (h' : Frozen b m' m'') : Frozen b m m'' := by
  obtain ⟨added, hadded, hnew⟩ := h.entities
  obtain ⟨added', hadded', hnew'⟩ := h'.entities
  refine ⟨⟨added ++ added', ?_, ?_⟩, h'.events.trans h.events, h'.counts.trans h.counts,
    h'.testCase.trans h.testCase⟩
  · rw [hadded', hadded, List.append_assoc]
  · exact List.forall_mem_append.mpr ⟨hnew, h.events ▸ hnew'⟩

/-! ## The metrics -/

/-- The test case has no entities of its own among the new rows. -/
theorem Frozen.entitiesOf (h : Frozen b m m') : m'.entitiesOf b = m.entitiesOf b := by
  obtain ⟨added, hadded, hnew⟩ := h.entities
  have hnone : added.filter (fun e => e.testCase == b) = [] :=
    List.filter_eq_nil_iff.mpr fun row hrow heq => (hnew row hrow).1 (beq_iff_eq.mp heq)
  rw [MemoryStore.entitiesOf, hadded, List.filter_append, hnone, List.append_nil]
  rfl

/-- None of the new rows is looked up for the events of the test case. -/
theorem Frozen.observed (h : Frozen b m m') : m'.observed b = m.observed b := by
  obtain ⟨added, hadded, hnew⟩ := h.entities
  have hnone : added.filter (fun e =>
      (CaseMetrics.carriedIds (m.entitiesOf b) (m.eventsOf b)).contains e.id) = [] := by
    refine List.filter_eq_nil_iff.mpr fun row hrow hcarried => (hnew row hrow).2 ?_
    exact (CaseMetrics.mem_carriedIds.mp (List.contains_iff_mem.mp hcarried)).1
  rw [MemoryStore.observed, h.entitiesOf, h.events, MemoryStore.entitiesById, hadded,
    List.filter_append, hnone, List.append_nil]
  rfl

theorem Frozen.metrics (h : Frozen b m m') : m'.metrics b = m.metrics b := by
  unfold MemoryStore.metrics
  rw [h.entitiesOf, h.observed, h.events, h.counts, h.testCase]

/-! ## What a call leaves alone -/

theorem change_of_refused {α : Type} {g : Unit → α} {f : MemoryStore → Except StoreError MemoryStore}
    (h : ((g <$> StoreM.writing fun m => (f m).map ((), ·)).perform m).1.isOk = false) :
    ((g <$> StoreM.writing fun m => (f m).map ((), ·)).perform m).2 = m := by
  rw [StoreM.perform_map] at h ⊢
  cases hrun : (StoreM.writing fun m => (f m).map ((), ·)).perform m with
  | mk answer m' =>
      cases answer with
      | ok _ =>
          rw [hrun] at h
          exact absurd h.symm Bool.false_ne_true
      | error e => exact (StoreM.change_of_error hrun).2

/-- What is refused changes nothing. -/
theorem run_of_refused {w : StoreWrite} (h : (w.run.perform m).1.isOk = false) :
    (w.run.perform m).2 = m := by
  cases w with
  | saveEntities _ | saveCounts _ | createTestCase _ => exact absurd h.symm Bool.false_ne_true
  | saveEvents _ | finishTestCase _ _ _ => exact change_of_refused h

/-- Closing a test case changes no other one. -/
theorem find?_closeFirst {id : TestCaseId} {success : Bool} {now : Instant}
    {tcs tcs' : List TestCase} (h : closeFirst id success now tcs = some tcs') (hne : id ≠ b) :
    tcs'.find? (fun tc => tc.id == b) = tcs.find? fun tc => tc.id == b := by
  induction tcs generalizing tcs' with
  | nil => exact nomatch h
  | cons tc rest ih =>
      unfold closeFirst at h
      by_cases hid : tc.id = id
      · rw [if_pos hid] at h
        cases h
        have hother : (tc.id == b) = false := beq_eq_false_iff_ne.mpr (hid ▸ hne)
        rw [List.find?_cons_of_neg (by simp [hother]), List.find?_cons_of_neg (by simp [hother])]
      · rw [if_neg hid] at h
        obtain ⟨closed, hclosed, rfl⟩ := Option.map_eq_some_iff.mp h
        rw [List.find?_cons, List.find?_cons, ih hclosed]

/-- Saving an entity of another test case adds at most a row of this other test case, under an id that no
event can name yet. -/
theorem frozen_saveEntity (hm : m.Regular) {e : Entity} (he : e.testCase ≠ b) :
    Frozen b m (m.saveEntity e).2 := by
  cases hfind : m.findExisting e with
  | some id =>
      rw [saveEntity_of_existing hfind]
      exact ⟨(Frozen.refl b m).entities, rfl, rfl, rfl⟩
  | none =>
      rw [saveEntity_of_new hfind]
      refine ⟨⟨[_], rfl, List.forall_mem_singleton.mpr ⟨he, fun hnamed => ?_⟩⟩, rfl, rfl, rfl⟩
      obtain ⟨ev, hev, hid⟩ := List.mem_map.mp hnamed
      have hknown := hm.known ev (List.mem_filter.mp hev).1
      rw [hid] at hknown
      exact hm.next_new hknown

theorem frozen_saveEntities (hm : m.Regular) {batch : List Entity}
    (hbatch : ∀ e ∈ batch, e.testCase ≠ b) : Frozen b m (m.saveEntities batch).2 := by
  induction batch generalizing m with
  | nil => exact Frozen.refl b m
  | cons e rest ih =>
      obtain ⟨he, hrest⟩ := List.forall_mem_cons.mp hbatch
      exact (frozen_saveEntity hm he).trans (ih (hm.saveEntity e) hrest)

/-- What is written about other test cases leaves the metrics of one that is there alone. -/
theorem frozen_of_written (hm : m.Regular) (hb : b ∈ m.testCases.map (·.id)) {w : StoreWrite}
    (hw : m.Written w m') (hspared : ¬w.Concerns b) : Frozen b m m' := by
  have hsame := (Frozen.refl b m).entities
  cases hw with
  | refused => exact Frozen.refl b m
  | entities batch => exact frozen_saveEntities hm fun e he heq => hspared ⟨e, he, heq⟩
  | @events batch m' hok =>
      obtain ⟨added, hevents, _, htestCases, hrows, _, hcounts, hcases⟩ := saveEvents_of_ok hok
      have hnone : added.filter (fun e => e.testCase == b) = [] := by
        refine List.filter_eq_nil_iff.mpr fun e he heq => hspared ?_
        have hmem : e.testCase ∈ batch.map (·.testCase) := htestCases ▸ List.mem_map_of_mem he
        obtain ⟨e', he', hcase⟩ := List.mem_map.mp hmem
        exact ⟨e', he', hcase.trans (beq_iff_eq.mp heq)⟩
      refine ⟨hrows.symm ▸ hsame, ?_, ?_, ?_⟩
      · rw [eventsOf, hevents, List.filter_append, hnone, List.append_nil]
        rfl
      · rw [countsOf, hcounts]
        rfl
      · rw [MemoryStore.testCase, hcases]
        rfl
  | counts batch =>
      have hnone : batch.filter (fun c => c.testCase == b) = [] :=
        List.filter_eq_nil_iff.mpr fun c hc heq => hspared ⟨c, hc, beq_iff_eq.mp heq⟩
      refine ⟨hsame, rfl, ?_, rfl⟩
      rw [countsOf, MemoryStore.saveCounts, List.filter_append, hnone, List.append_nil]
      rfl
  | created tc =>
      -- The test case is found before the new one is reached.
      refine ⟨hsame, rfl, rfl, ?_⟩
      obtain ⟨old, hold, hid⟩ := List.mem_map.mp hb
      have hfound : (m.testCases.find? fun tc => tc.id == b).isSome = true :=
        List.find?_isSome.mpr ⟨old, hold, beq_iff_eq.mpr hid⟩
      rw [MemoryStore.testCase, MemoryStore.createTestCase, List.find?_append,
        Option.or_of_isSome hfound]
      rfl
  | closed hclose => exact ⟨hsame, rfl, rfl, find?_closeFirst hclose hspared⟩

/-! ## Every sequence of calls -/

theorem frozen_after (hm : m.Regular) (hb : b ∈ m.testCases.map (·.id)) {c : StoreCall}
    (hspared : c.Spares b m) : Frozen b m (c.after m) := by
  cases c with
  | read r => exact (after_read m r).symm ▸ Frozen.refl b m
  | write w =>
      rcases hspared with hother | hrefused
      · exact frozen_of_written hm hb (written_run m w) hother
      · have hsame : StoreCall.after m (.write w) = m := run_of_refused hrefused
        exact hsame.symm ▸ Frozen.refl b m

/-- Test cases stay in the store. -/
theorem mem_testCases_after (c : StoreCall) (hb : b ∈ m.testCases.map (·.id)) :
    b ∈ (c.after m).testCases.map (·.id) := by
  obtain ⟨kept, added, hcases, hstays⟩ := (appended_after m c).testCases
  rw [hcases, List.map_append, ids_of_stays hstays]
  exact List.mem_append_left _ hb

theorem frozen_afterAll (hm : m.Regular) (hb : b ∈ m.testCases.map (·.id)) {calls : List StoreCall}
    (hspared : StoreCall.AllSpare b m calls) : Frozen b m (StoreCall.afterAll m calls) := by
  induction calls generalizing m with
  | nil => exact Frozen.refl b m
  | cons c rest ih =>
      obtain ⟨hone, hrest⟩ := hspared
      exact (frozen_after hm hb hone).trans (ih (hm.after c) (mem_testCases_after c hb) hrest)

/-- Once a test case is in the store, its metrics do not change as long as nothing is written to it:
whatever is written to other test cases, also where these observe its entities again, whatever is
refused, and whatever is read. -/
theorem metrics_frozen (before later : List StoreCall) (b : TestCaseId)
    (hb : b ∈ (StoreCall.afterAll empty before).testCases.map (·.id))
    (hspared : StoreCall.AllSpare b (StoreCall.afterAll empty before) later) :
    ∃ answer, CaseMetrics.collect b (StoreCall.afterAll empty before) =
        (answer, StoreCall.afterAll empty before) ∧
      CaseMetrics.collect b (StoreCall.afterAll empty (before ++ later)) =
        (answer, StoreCall.afterAll empty (before ++ later)) := by
  have hfrozen := frozen_afterAll (regular_empty.afterAll before) hb hspared
  have hlater : StoreCall.afterAll empty (before ++ later) =
      StoreCall.afterAll (StoreCall.afterAll empty before) later := List.foldl_append
  refine ⟨_, collect_eq _ b, ?_⟩
  rw [hlater, collect_eq, hfrozen.metrics]

/-- A claim that was observed in the first test case is observed again in a second one, and a batch for
the first one is refused. The metrics of the first one stay. -/
theorem metrics_frozen_seenAgain :
    let event (name : String) (testCase : TestCaseId) (entity : EntityId) : Event :=
      ⟨none, name, testCase, entity, .pvcAdded, ⟨0⟩⟩
    let before := [StoreCall.write (.createTestCase (.fresh "a" "run" ⟨0⟩)),
      .write (.saveEntities [.fresh "data" "u1" .pvc 1]), .write (.saveEvents [event "x" 1 1])]
    let later := [StoreCall.write (.createTestCase (.fresh "b" "run" ⟨1⟩)),
      .write (.saveEntities [.fresh "data" "u1" .pvc 2, .fresh "web" "u2" .pod 2]),
      .write (.saveEvents [event "y" 2 1]), .write (.saveEvents [event "x" 1 1]), .read (.events 1),
      .write (.finishTestCase 2 true ⟨2⟩)]
    (StoreCall.afterAll empty (before ++ later)).events.map (fun e => (e.testCase, e.entity)) =
        [(1, 1), (2, 1)] ∧
      ∃ answer, CaseMetrics.collect 1 (StoreCall.afterAll empty before) =
          (answer, StoreCall.afterAll empty before) ∧
        CaseMetrics.collect 1 (StoreCall.afterAll empty (before ++ later)) =
          (answer, StoreCall.afterAll empty (before ++ later)) := by
  intro event before later
  exact ⟨by decide +kernel, metrics_frozen before later 1 (by decide +kernel) (by decide +kernel)⟩

end MemoryStore

end StorageLifecycle
