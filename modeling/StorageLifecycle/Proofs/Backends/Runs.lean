import StorageLifecycle.Proofs.Backends.Collecting
import StorageLifecycle.Proofs.Backends.RoundTrip
import StorageLifecycle.Proofs.Metrics.Runs

/-!
# The runs that both stores collect

Both stores list the test cases of a run in the same order: the one in memory compares starts, the
relational one the cells that starts were written to, and a cell keeps the order of what the calendar
reaches. So each store collects a run as it should, whatever was written to it and whatever it refused.
-/

namespace StorageLifecycle

open Relational

/-! ## The order of test cases -/

/-- Test cases with different ids that are sorted by their starts and then by their ids. -/
theorem sorted_startsBefore {cases : List TestCase} (hids : (cases.map (·.id)).Nodup) :
    (cases.mergeSort MemoryStore.startsBefore).Pairwise TestCase.StartsBefore := by
  have hiff : ∀ a b, MemoryStore.startsBefore a b = true ↔
      a.startedAt.nanos < b.startedAt.nanos ∨ a.startedAt.nanos = b.startedAt.nanos ∧ a.id ≤ b.id := by
    intro a b
    have heq : a.startedAt = b.startedAt ↔ a.startedAt.nanos = b.startedAt.nanos :=
      ⟨congrArg _, fun h => congrArg Instant.mk h⟩
    simp [MemoryStore.startsBefore, Instant.lt_def, heq]
  have hsorted : (cases.mergeSort MemoryStore.startsBefore).Pairwise
      fun a b => MemoryStore.startsBefore a b = true := by
    apply List.pairwise_mergeSort
    · intro a b c hab hbc
      rw [hiff] at hab hbc ⊢
      grind
    · intro a b
      rw [Bool.or_eq_true, hiff, hiff]
      grind
  have hdistinct : (cases.mergeSort MemoryStore.startsBefore).Pairwise fun a b => a.id ≠ b.id :=
    List.pairwise_map.mp (((List.mergeSort_perm _ _).map _).nodup_iff.mpr hids)
  refine (hsorted.and hdistinct).imp fun {a b} hab => ?_
  rcases (hiff a b).mp hab.1 with hlt | ⟨heq, hle⟩
  · exact .inl hlt
  · exact .inr ⟨congrArg Instant.mk heq, Int.lt_iff_le_and_ne.mpr ⟨hle, hab.2⟩⟩

/-- A store that lists sorted test cases. -/
theorem listsRuns_of_sorted {σ : Type} [EventStore σ] {s : σ} {cases : List TestCase}
    (hids : (cases.map (·.id)).Nodup)
    (hsorted : ∀ run, (EventStore.testCasesOfRun run).perform s =
      (.ok ((cases.filter fun tc => tc.runName == run).mergeSort MemoryStore.startsBefore), s)) :
    ListsRuns s cases := by
  refine ⟨hids, fun run => ⟨_, hsorted run, List.mergeSort_perm _ _, ?_⟩⟩
  exact sorted_startsBefore (hids.sublist (List.filter_sublist.map _))

theorem MemoryStore.Regular.listsRuns {m : MemoryStore} (h : m.Regular) : ListsRuns m m.testCases := by
  refine listsRuns_of_sorted ?_ fun run => rfl
  rw [h.testCaseIds]
  exact (MemoryStore.numbers_ascending _).imp Int.ne_of_lt

/-! ## Test cases of a relational store -/

/-- The call is in range, and a test case that it creates starts at a moment on the calendar. -/
def StoreCall.Dated : StoreCall → Prop
  | write (.createTestCase tc) => tc.startedAt.OnCalendar
  | c => c.InRange

instance : DecidablePred StoreCall.Dated
  | .write (.createTestCase tc) => inferInstanceAs (Decidable tc.startedAt.OnCalendar)
  | .write (.saveEntities batch) => inferInstanceAs (Decidable (StoreCall.InRange (.write (.saveEntities batch))))
  | .write (.saveEvents batch) => inferInstanceAs (Decidable (StoreCall.InRange (.write (.saveEvents batch))))
  | .write (.saveCounts batch) => inferInstanceAs (Decidable (StoreCall.InRange (.write (.saveCounts batch))))
  | .write (.finishTestCase _ _ _) => inferInstanceAs (Decidable True)
  | .read _ => inferInstanceAs (Decidable True)

theorem StoreCall.Dated.inRange {c : StoreCall} (h : c.Dated) : c.InRange := by
  cases c with
  | read r => exact h
  | write w =>
      cases w with
      | createTestCase tc => exact True.intro
      | _ => exact h

/-- The test case that a row says, if it can be read. -/
def Relational.TestCaseRow.testCase (r : TestCaseRow) : TestCase :=
  match r.read with
  | .ok tc => tc
  | .error _ => .fresh "" "" .epoch

namespace RelationalStore

variable {s s' : RelationalStore}

/-- Each row is of a test case that started on the calendar, open or with its last end. -/
def Opened (s : RelationalStore) : Prop :=
  ∀ r ∈ s.testCases.rows, ∃ tc last, r = endedRow r.id tc last ∧ tc.startedAt.OnCalendar

theorem opened_empty : empty.Opened := fun _ hr => nomatch hr

theorem Opened.wrote (h : s.Opened) {w : StoreWrite} (hw : StoreCall.Dated (.write w))
    (hwrote : s.Wrote w s') : s'.Opened := by
  have hsame : s'.testCases = s.testCases → s'.Opened := by
    intro heq
    unfold Opened
    rwa [heq]
  cases hwrote with
  | refused _ => exact h
  | entities hwidened => exact hsame hwidened.testCases
  | events hok => exact hsame (saveEvents_of_ok hok).testCases
  | counts hok => exact hsame (saveCounts_of_ok hok).testCases
  | @created tc id _ =>
      exact List.forall_mem_append.mpr ⟨h, List.forall_mem_singleton.mpr ⟨tc, none, rfl, hw⟩⟩
  | @finished id success now =>
      refine List.forall_mem_map.mpr fun r hr => ?_
      obtain ⟨tc, last, hrow, hstarted⟩ := h r hr
      split
      · refine ⟨tc, some (success, now), ?_, hstarted⟩
        rw [hrow, closedRow_endedRow, endedRow_id]
      · exact ⟨tc, last, hrow, hstarted⟩

theorem Opened.afterAll (h : s.Opened) {calls : List StoreCall} (hcalls : ∀ c ∈ calls, c.Dated) :
    (StoreCall.afterAll s calls).Opened :=
  keeps_afterAll (fun hw h => h.wrote (hcalls _ hw)) h

/-- A row of a test case is read with its id and its run, and at the moment of its start. -/
theorem Opened.read (h : s.Opened) {r : TestCaseRow} (hr : r ∈ s.testCases.rows) :
    r.read = .ok r.testCase ∧ r.testCase.id = r.id ∧ r.runName = .text r.testCase.runName ∧
      r.startedAt = .integer r.testCase.startedAt.micros ∧
      r.testCase.startedAt.rounded = r.testCase.startedAt := by
  obtain ⟨tc, last, hrow, hstarted⟩ := h r hr
  have hread := read_endedRow r.id last hstarted
  rw [← hrow] at hread
  have hcase : r.testCase = ⟨r.id, tc.name, tc.runName, tc.startedAt.rounded,
      last.bind fun x => moment? x.2.micros, last.map Prod.fst⟩ := by
    unfold TestCaseRow.testCase
    rw [hread]
  have hrun : r.runName = .text tc.runName := by
    rw [hrow]
    cases last <;> rfl
  have hstart : r.startedAt = .integer tc.startedAt.rounded.micros := by
    rw [hrow, Instant.rounded, Instant.micros_ofMicros]
    cases last <;> rfl
  rw [hcase]
  exact ⟨hread, rfl, hrun, hstart, Instant.rounded_rounded _⟩

/-- The cells of starts are in the order of the starts. -/
theorem Opened.startsBefore_eq (h : s.Opened) {a b : TestCaseRow} (ha : a ∈ s.testCases.rows)
    (hb : b ∈ s.testCases.rows) :
    startsBefore a b = MemoryStore.startsBefore a.testCase b.testCase := by
  obtain ⟨-, hida, -, hcella, hrounda⟩ := h.read ha
  obtain ⟨-, hidb, -, hcellb, hroundb⟩ := h.read hb
  have hnanos : ∀ t : Instant, t.rounded = t → t.nanos = t.micros * 1000 :=
    fun t ht => (congrArg Instant.nanos ht).symm
  have heq : a.testCase.startedAt = b.testCase.startedAt ↔
      a.testCase.startedAt.nanos = b.testCase.startedAt.nanos :=
    ⟨congrArg _, fun hn => congrArg Instant.mk hn⟩
  rw [startsBefore, MemoryStore.startsBefore, hcella, hcellb, Cell.integer_le, Cell.integer_le, hida, hidb,
    Bool.eq_iff_iff]
  simp only [Bool.and_eq_true, Bool.or_eq_true, decide_eq_true_eq, beq_iff_eq, Bool.not_eq_true',
    decide_eq_false_iff_not, Instant.lt_def, heq, hnanos _ hrounda, hnanos _ hroundb]
  grind

theorem Opened.listsRuns (h : s.Opened) (hasc : s.Ascending) :
    ListsRuns s (s.testCases.rows.map TestCaseRow.testCase) := by
  refine listsRuns_of_sorted ?_ fun run => ?_
  · have hids : (s.testCases.rows.map TestCaseRow.testCase).map (·.id) =
        s.testCases.rows.map TestCaseRow.id := by
      rw [List.map_map]
      exact List.map_congr_left fun r hr => (h.read hr).2.1
    rw [hids]
    exact hasc.testCases.imp Int.ne_of_lt
  · have hrows : s.testCases.rows.filter (fun r => r.runName == .text run) =
        s.testCases.rows.filter ((fun tc : TestCase => tc.runName == run) ∘ TestCaseRow.testCase) := by
      refine List.filter_congr fun r hr => ?_
      rw [(h.read hr).2.2.1, Function.comp_apply, Bool.eq_iff_iff, beq_iff_eq, beq_iff_eq, Cell.text.injEq]
    have hmem : ∀ r ∈ (s.testCases.rows.filter
        ((fun tc : TestCase => tc.runName == run) ∘ TestCaseRow.testCase)), r ∈ s.testCases.rows :=
      fun r hr => (List.mem_filter.mp hr).1
    have hread : s.testCasesOfRun run = .ok (((s.testCases.rows.map TestCaseRow.testCase).filter
        fun tc => tc.runName == run).mergeSort MemoryStore.startsBefore) := by
      unfold RelationalStore.testCasesOfRun
      rw [hrows, mapM_read fun r hr => (h.read (hmem r (List.mem_mergeSort.mp hr))).1, List.filter_map]
      exact congrArg Except.ok (List.map_mergeSort fun a ha b hb =>
        h.startsBefore_eq (hmem a ha) (hmem b hb))
    exact congrArg (·, s) hread

end RelationalStore

/-! ## Runs -/

/-- After every sequence of calls, the refused ones among them, the metrics of a run are those of its test
cases for which something was stored, and a run without one is not found. In the relational store the rows
are what is read of them, for which moments must be on the calendar and counts must have 32 bits. And
whatever the store, the first error that it answers with while a run is collected ends the collection and
is what comes of it. -/
theorem collect_run (calls : List StoreCall) (run : String) :
    (let m := StoreCall.afterAll MemoryStore.empty calls
     CollectsRun m m.entities m.events m.testCases run) ∧
    ((∀ c ∈ calls, c.Dated) →
      let s := StoreCall.afterAll RelationalStore.empty calls
      ∃ entities log cases, s.entities.rows.mapM EntityRow.read = .ok entities ∧
        s.events.rows.mapM EventRow.read = .ok log ∧
        s.testCases.rows.mapM TestCaseRow.read = .ok cases ∧ CollectsRun s entities log cases run) ∧
    ∀ (σ : Type) [EventStore σ],
      Monitored.EndsAtError (RunMetrics.collect run : CollectM (Monitored σ) _) (RunMetrics.collect run) := by
  refine ⟨?_, fun hcalls => ?_, fun σ _ => Monitored.endsAtError_collectRun run⟩
  · have hregular := MemoryStore.regular_empty.afterAll calls
    exact hregular.answers.collectsRun hregular.listsRuns run
  · have hlegible := RelationalStore.legible_empty.afterAll fun c hc => (hcalls c hc).inRange
    have hopened := RelationalStore.opened_empty.afterAll hcalls
    refine ⟨_, _, _, ?_, ?_, ?_, hlegible.answers.collectsRun
      (hopened.listsRuns (RelationalStore.ascending_empty.afterAll calls)) run⟩
    · exact RelationalStore.mapM_read fun r hr => (hlegible.read_entity hr).1
    · exact RelationalStore.mapM_read fun r hr => (hlegible.read_event hr).1
    · exact RelationalStore.mapM_read fun r hr => (hopened.read hr).1

/-- Of the test cases of a run, the last one to be created started first, one has events of an entity of
another run only, and one is empty. -/
theorem collect_run_shared :
    let event (name : String) (type : EventType) (testCase : TestCaseId) (entity : EntityId) : Event :=
      ⟨none, name, testCase, entity, type, ⟨5000⟩⟩
    let calls := [StoreCall.write (.createTestCase (.fresh "a" "weekly" ⟨0⟩)),
      .write (.createTestCase (.fresh "b" "nightly" ⟨3000⟩)),
      .write (.createTestCase (.fresh "c" "nightly" ⟨3000⟩)),
      .write (.createTestCase (.fresh "d" "nightly" ⟨2000⟩)),
      .write (.saveEntities [.fresh "data" "u1" .pvc 1, .fresh "web" "u2" .pod 4]),
      .write (.saveEvents [event "x1" .pvcAdded 1 1, event "y1" .pvcBound 2 1, event "z1" .podAdded 4 2]),
      .write (.saveEvents [event "y1" .podReady 3 2])]
    let m := StoreCall.afterAll MemoryStore.empty calls
    let s := StoreCall.afterAll RelationalStore.empty calls
    (∀ c ∈ calls, c.Dated) ∧
      ((m.testCases.filter fun tc => tc.runName == "nightly").map fun tc =>
        (tc.id, decide (Observed m.entities m.events tc.id))) = [(2, true), (3, false), (4, true)] ∧
      CollectsRun m m.entities m.events m.testCases "nightly" ∧
      (∃ entities log cases, s.entities.rows.mapM EntityRow.read = .ok entities ∧
        s.events.rows.mapM EventRow.read = .ok log ∧
        s.testCases.rows.mapM TestCaseRow.read = .ok cases ∧
        CollectsRun s entities log cases "nightly") ∧
      Monitored.EndsAtError (RunMetrics.collect "nightly" : CollectM (Monitored (Faulty MemoryStore)) _)
        (RunMetrics.collect "nightly") := by
  intro event calls
  have hdated : ∀ c ∈ calls, c.Dated := by decide +kernel
  obtain ⟨hmemory, hrelational, herror⟩ := collect_run calls "nightly"
  exact ⟨hdated, by decide +kernel, hmemory, hrelational hdated, herror (Faulty MemoryStore)⟩

end StorageLifecycle
