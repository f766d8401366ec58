import StorageLifecycle.Proofs.Backends.Lasting

/-!
# What is written is read back

A relational store gives back what was written to it, and nothing else is lost of it than what a moment has
below the microsecond: events and samples in the order in which they were written, an entity under the id
that it was given, and a test case with its last end. This holds for each moment that the calendar reaches,
for such a moment counts few enough microseconds for a signed word.
-/

namespace StorageLifecycle

open Relational

/-! ## Moments -/

/-- The days that the calendar reaches are few. -/
theorem Date.days_bounds {days : Int} (h : Rfc3339.yearInRange (Date.ofDays days).year = true) :
    -106751991 ≤ days ∧ days ≤ 106751990 := by
  have hyear : -262143 ≤ (Date.ofDays days).year ∧ (Date.ofDays days).year ≤ 262142 := by
    simpa [Rfc3339.yearInRange] using h
  unfold Date.ofDays at hyear
  dsimp only at hyear
  generalize hera : (days + 719468) / 146097 = era at hyear
  generalize hday : days + 719468 - era * 146097 = dayOfEra at hyear
  generalize hyear' : (dayOfEra - dayOfEra / 1460 + dayOfEra / 36524 - dayOfEra / 146096) / 365 = yearOfEra
    at hyear
  split at hyear <;> omega

namespace Instant

theorem OnCalendar.fitsWord {t : Instant} (h : t.OnCalendar) : Cell.fitsWord t.micros = true := by
  have hhalf : (Word.half 64 : Int) = 9223372036854775808 := by decide
  have hdays := Date.days_bounds h
  unfold seconds nanosPerSecond at hdays
  unfold Cell.fitsWord micros
  rw [hhalf, Bool.and_eq_true, decide_eq_true_eq, decide_eq_true_eq]
  omega

theorem OnCalendar.rounded {t : Instant} (h : t.OnCalendar) : t.rounded.OnCalendar := by
  have hseconds : t.rounded.seconds = t.seconds := by
    simp only [seconds, Instant.rounded, ofMicros, micros, nanosPerSecond]
    omega
  unfold OnCalendar
  rw [hseconds]
  exact h

theorem rounded_rounded (t : Instant) : t.rounded.rounded = t.rounded := by
  unfold rounded
  rw [micros_ofMicros]

/-- What becomes of a moment that is stored as whole microseconds and read back. -/
structure Kept (t : Instant) : Prop where
  fits : Cell.fitsWord t.micros = true
  read : moment t.micros = .ok t.rounded
  le : t.rounded ≤ t
  near : t.nanos < t.rounded.nanos + 1000
  onCalendar : t.rounded.OnCalendar
  again : t.rounded.rounded = t.rounded

theorem OnCalendar.kept {t : Instant} (h : t.OnCalendar) : t.Kept where
  fits := h.fitsWord
  read := moment_micros h
  le := ofMicros_micros_le t
  near := by
    simp only [Instant.rounded, ofMicros, micros]
    omega
  onCalendar := h.rounded
  again := t.rounded_rounded

end Instant

theorem Cell.integer_le (i j : Int) : (Cell.integer i).le (.integer j) = decide (i ≤ j) := by
  have hunit : (0 : Int) < Double.unit := Int.natCast_pos.mpr (Word.bound_pos _)
  exact decide_eq_decide.mpr (Int.mul_le_mul_iff_of_pos_right hunit)

/-- Two events that were stored one after the other. -/
def Event.Precedes (a b : Event) : Prop := ∃ i j, a.id = some i ∧ b.id = some j ∧ i < j

namespace RelationalStore

variable {s s' : RelationalStore}

/-! ## Events -/

theorem Legible.eventsOf_eq (h : s.Legible) (id : TestCaseId) :
    s.eventsOf id = .ok ((reading.log s).filter fun e => e.testCase == id) :=
  congrArg Prod.fst (h.answers.events id)

theorem Legible.event_id (h : s.Legible) {r : EventRow} (hr : r ∈ s.events.rows) :
    r.event.id = some r.id := by
  obtain ⟨e, he, hdated, -⟩ := h.events r hr
  unfold EventRow.event
  rw [he, EventRow.read_ofEvent _ hdated]
  rfl

/-- Events are read in the order in which they were stored. -/
theorem Legible.log_ordered (h : s.Legible) (hasc : s.Ascending) :
    (reading.log s).Pairwise Event.Precedes := by
  have hrows := List.pairwise_map.mp hasc.events
  refine List.pairwise_map.mpr (hrows.imp_of_mem fun ha hb hlt => ?_)
  exact ⟨_, _, h.event_id ha, h.event_id hb, hlt⟩

/-- The events of a batch are read behind those that were there before. -/
theorem Logged.log_append {batch : List Event} (h : s.Logged batch s')
    (hdated : ∀ e ∈ batch, e.timestamp.OnCalendar) :
    ∃ added, reading.log s' = reading.log s ++ added ∧ (∀ e ∈ added, e.id.isSome = true) ∧
      added.map Event.unsaved = batch.map fun e => (e.rounded id).unsaved := by
  obtain ⟨added, hrows, hsame⟩ := h.events
  have hread : ∀ r : EventRow, ∀ b ∈ batch, r.unnumbered = .ofEvent 0 b →
      r.event = { b.rounded id with id := some r.id } := by
    intro r b hb hform
    unfold EventRow.event
    rw [EventRow.read_of_unnumbered hform (hdated b hb)]
    rfl
  refine ⟨added.map EventRow.event, ?_, ?_, ?_⟩
  · show s'.events.rows.map EventRow.event = _
    rw [hrows, List.map_append]
    rfl
  · refine List.forall_mem_map.mpr fun r hr => ?_
    obtain ⟨b, hb, hform⟩ := List.mem_map.mp (hsame ▸ List.mem_map_of_mem hr)
    rw [hread r b hb hform.symm]
    rfl
  · rw [List.map_map]
    refine map_of_map_eq (fun r b hb hform => ?_) hsame
    rw [Function.comp_apply, hread r b hb hform]
    rfl

/-! ## Samples -/

/-- The samples of a call, if they are accepted. -/
def samples (s : RelationalStore) : StoreCall → List CountSample
  | .write (.saveCounts batch) =>
    match s.saveCounts batch with
    | .ok _ => batch
    | .error _ => []
  | _ => []

/-- The samples of calls, as far as they are accepted. -/
def allSamples (s : RelationalStore) : List StoreCall → List CountSample
  | [] => []
  | c :: rest => s.samples c ++ (c.after s).allSamples rest

theorem samples_fit {c : StoreCall} (hc : c.InRange) :
    ∀ x ∈ s.samples c, x.timestamp.OnCalendar ∧ ∀ n ∈ x.tally.toList, n < Word.bound 32 := by
  unfold samples
  split
  · split
    · exact hc
    · exact List.forall_mem_nil _
  · exact List.forall_mem_nil _

theorem allSamples_fit {calls : List StoreCall} (hcalls : ∀ c ∈ calls, c.InRange) :
    ∀ x ∈ s.allSamples calls, x.timestamp.OnCalendar ∧ ∀ n ∈ x.tally.toList, n < Word.bound 32 := by
  induction calls generalizing s with
  | nil => exact List.forall_mem_nil _
  | cons c rest ih =>
      obtain ⟨hc, hrest⟩ := List.forall_mem_cons.mp hcalls
      exact List.forall_mem_append.mpr ⟨samples_fit hc, ih hrest⟩

/-- A write adds rows for its samples to those of samples. -/
theorem Wrote.counts_rows {w : StoreWrite} (h : s.Wrote w s') :
    s'.counts.rows.map CountRow.unnumbered =
      s.counts.rows.map CountRow.unnumbered ++ (s.samples (.write w)).map (CountRow.ofSample 0) := by
  have hother : s'.counts = s.counts → s.samples (.write w) = [] → s'.counts.rows.map CountRow.unnumbered =
      s.counts.rows.map CountRow.unnumbered ++ (s.samples (.write w)).map (CountRow.ofSample 0) := by
    intro hcounts hnone
    rw [hcounts, hnone, List.map_nil, List.append_nil]
  cases h with
  | @refused w hrefused =>
      refine hother rfl ?_
      cases w with
      | saveCounts batch =>
          obtain ⟨e, herror⟩ := hrefused
          rw [samples, herror]
      | _ => rfl
  | entities hwidened => exact hother hwidened.counts rfl
  | events hok => exact hother (saveEvents_of_ok hok).counts rfl
  | @counts batch _ hok =>
      obtain ⟨added, hrows, hsame⟩ := (saveCounts_of_ok hok).counts
      have hsamples : s.samples (.write (.saveCounts batch)) = batch := by
        rw [samples, hok]
      rw [hrows, hsamples, List.map_append, hsame]
  | created _ => exact hother rfl rfl
  | finished => exact hother rfl rfl

theorem counts_afterAll (s : RelationalStore) (calls : List StoreCall) :
    (StoreCall.afterAll s calls).counts.rows.map CountRow.unnumbered =
      s.counts.rows.map CountRow.unnumbered ++ (s.allSamples calls).map (CountRow.ofSample 0) := by
  induction calls generalizing s with
  | nil => exact (List.append_nil _).symm
  | cons c rest ih =>
      refine (ih _).trans ?_
      rw [allSamples, List.map_append, ← List.append_assoc]
      refine congrArg (· ++ _) ?_
      cases c with
      | write w => exact (s.run_wrote w).counts_rows
      | read r =>
          rw [after_read]
          exact (List.append_nil _).symm

theorem sampledBefore_of_lt {a b : CountRow} (h : a.id < b.id) :
    sampledBefore a b = a.timestamp.le b.timestamp := by
  unfold sampledBefore
  rw [decide_eq_true (Int.le_of_lt h), Bool.or_true, Bool.and_true]

/-- Samples are read in the order of their moments, and those of one moment in the order in which they were
stored. -/
theorem Ascending.countsOf (hasc : s.Ascending) {saved : List CountSample}
    (hrows : s.counts.rows.map CountRow.unnumbered = saved.map (CountRow.ofSample 0))
    (hfit : ∀ c ∈ saved, c.timestamp.OnCalendar ∧ ∀ n ∈ c.tally.toList, n < Word.bound 32)
    (id : TestCaseId) :
    s.countsOf id = .ok (((saved.filter fun c => c.testCase == id).map CountSample.rounded).mergeSort
      fun a b => decide (a.timestamp ≤ b.timestamp)) := by
  have hread : ∀ r : CountRow, ∀ c ∈ saved, r.unnumbered = .ofSample 0 c →
      r.read = .ok r.sample ∧ r.sample = c.rounded := by
    intro r c hc hform
    have hread := CountRow.read_of_unnumbered hform (hfit c hc).1 (hfit c hc).2
    unfold CountRow.sample
    rw [hread]
    exact ⟨rfl, rfl⟩
  have hform : ∀ r ∈ s.counts.rows, r.read = .ok r.sample ∧ r.testCase = .integer r.sample.testCase ∧
      ∃ c : CountSample, r.timestamp = .integer c.timestamp.micros ∧
        r.sample.timestamp = c.timestamp.rounded := by
    intro r hr
    obtain ⟨c, hc, hform⟩ := List.mem_map.mp (hrows ▸ List.mem_map_of_mem hr)
    obtain ⟨hok, hsample⟩ := hread r c hc hform.symm
    rw [hsample]
    exact ⟨hsample ▸ hok, congrArg CountRow.testCase hform.symm, c,
      congrArg CountRow.timestamp hform.symm, rfl⟩
  have hsorted : (s.counts.rows.filter fun r => r.testCase == .integer id).mergeSort sampledBefore =
      (s.counts.rows.filter fun r => r.testCase == .integer id).mergeSort
        fun a b => a.timestamp.le b.timestamp :=
    mergeSort_congr ((List.pairwise_map.mp hasc.counts).filter _ |>.imp sampledBefore_of_lt)
  have hsamples : (s.counts.rows.filter fun r => r.testCase == .integer id).map CountRow.sample =
      (saved.filter fun c => c.testCase == id).map CountSample.rounded := by
    have hcase : s.counts.rows.filter (fun r => r.testCase == .integer id) =
        s.counts.rows.filter ((fun c : CountSample => c.testCase == id) ∘ CountRow.sample) := by
      refine List.filter_congr fun r hr => ?_
      rw [(hform r hr).2.1, Cell.integer_beq, Function.comp_apply]
    rw [hcase, ← List.filter_map, map_of_map_eq (fun r c hc hform => (hread r c hc hform).2) hrows,
      List.filter_map]
    rfl
  unfold RelationalStore.countsOf
  rw [hsorted, mapM_read fun r hr => (hform r (List.mem_filter.mp (List.mem_mergeSort.mp hr)).1).1,
    ← hsamples]
  refine congrArg Except.ok (List.map_mergeSort fun a ha b hb => ?_)
  obtain ⟨-, -, c, hc, hcsample⟩ := hform a (List.mem_filter.mp ha).1
  obtain ⟨-, -, d, hd, hdsample⟩ := hform b (List.mem_filter.mp hb).1
  rw [hc, hd, hcsample, hdsample, Cell.integer_le]
  refine decide_eq_decide.mpr ?_
  simp only [Instant.le_def, Instant.rounded, Instant.ofMicros]
  omega

/-! ## The round trip -/

/-- Rows that can be read one by one can be read as a whole. -/
theorem exists_mapM_read {ρ α : Type} {read : ρ → Except StoreError α} {rows : List ρ}
    (h : ∀ r ∈ rows, ∃ a, read r = .ok a) : ∃ as, rows.mapM read = .ok as := by
  induction rows with
  | nil => exact ⟨[], rfl⟩
  | cons r rest ih =>
      obtain ⟨⟨a, ha⟩, hrest⟩ := List.forall_mem_cons.mp h
      obtain ⟨as, has⟩ := ih hrest
      exact ⟨a :: as, by rw [List.mapM_cons, ha, has]; rfl⟩

/-- Every question is answered. -/
theorem Legible.answers_read (h : s.Legible) (r : StoreRead) : (r.run.perform s).1 = .ok () := by
  have hanswered : ∀ {α : Type} {m : StoreM RelationalStore α}, (∃ a, (m.perform s).1 = .ok a) →
      (((fun _ => ()) <$> m).perform s).1 = .ok () := by
    rintro α m ⟨a, ha⟩
    rw [StoreM.perform_map, ha]
    rfl
  cases r with
  | testCase id => exact hanswered ((h.answers.testCase id).imp fun _ => congrArg Prod.fst)
  | testCasesOfRun run =>
      refine hanswered (exists_mapM_read fun r hr => h.testCases r ?_)
      exact (List.mem_filter.mp (List.mem_mergeSort.mp hr)).1
  | entities id => exact hanswered ⟨_, congrArg Prod.fst (h.answers.own id)⟩
  | entitiesById ids =>
      refine hanswered (exists_mapM_read fun r hr => ⟨_, (h.read_entity ?_).1⟩)
      obtain ⟨id, -, hfind⟩ := List.mem_filterMap.mp hr
      exact List.mem_of_find?_eq_some hfind
  | events id => exact hanswered ⟨_, congrArg Prod.fst (h.answers.events id)⟩
  | counts id => exact hanswered ((h.answers.counts id).imp fun _ => congrArg Prod.fst)

/-- What is written to a store is read back. The store is the one that calls leave behind. -/
structure ReadsBack (calls : List StoreCall) (s : RelationalStore) : Prop where
  /-- Every question is answered. -/
  reads : ∀ r : StoreRead, (r.run.perform s).1 = .ok ()
  /-- The events of a batch come behind those before, in turn, under new and ascending ids. -/
  events : ∀ batch s', (∀ e ∈ batch, e.timestamp.OnCalendar) →
    (EventStore.saveEvents batch).perform s = (.ok (), s') → ∀ tc, ∃ before added,
      s.eventsOf tc = .ok before ∧ s'.eventsOf tc = .ok (before ++ added) ∧
      added.map Event.unsaved =
        (batch.filter fun e => e.testCase == tc).map (fun e => (e.rounded id).unsaved) ∧
      (∀ e ∈ added, e.id.isSome = true) ∧ (before ++ added).Pairwise Event.Precedes ∧
      ∀ old ∈ reading.log s, ∀ e ∈ added, old.Precedes e
  /-- All samples come by their moments, and those of one moment in the order in which they were saved. -/
  samples : ∀ tc, s.countsOf tc = .ok
    ((((empty.allSamples calls).filter fun c => c.testCase == tc).map CountSample.rounded).mergeSort
      fun a b => decide (a.timestamp ≤ b.timestamp))
  /-- An entity that is the same as none before it is read back under its id, whatever comes after it. -/
  entities : ∀ earlier e later ids s',
    (EventStore.saveEntities (earlier ++ e :: later)).perform s = (.ok ids, s') →
    (∀ x ∈ reading.entities s ++ earlier, x.sameAs e = false) →
    ∃ id, ids[earlier.length]? = some id ∧ ∀ more, (∀ c ∈ more, c.InRange) →
      (StoreCall.afterAll s' more).entitiesById [id] = .ok [{ e with id }] ∧
      ∃ xs, (StoreCall.afterAll s' more).entitiesOf e.testCase = .ok xs ∧ { e with id } ∈ xs
  /-- A test case is read back with its last end, if it has one. -/
  testCases : ∀ tc id s', tc.startedAt.OnCalendar →
    (EventStore.createTestCase tc).perform s = (.ok id, s') → ∀ more,
      (StoreCall.afterAll s' more).testCase id = .ok (some ⟨id, tc.name, tc.runName,
        tc.startedAt.rounded, (lastEnd id none more).bind fun x => moment? x.2.micros,
        (lastEnd id none more).map Prod.fst⟩)

/-- What is written to a relational store is read back, as long as it is in range; and rounding keeps moments
in range and in order. -/
theorem reads_back {calls : List StoreCall} (hcalls : ∀ c ∈ calls, c.InRange) :
    ReadsBack calls (StoreCall.afterAll empty calls) ∧ (∀ t : Instant, t.OnCalendar → t.Kept) ∧
      ∀ a b : Instant, a ≤ b → a.rounded ≤ b.rounded := by
  refine ⟨?_, fun t h => h.kept, fun a b => Instant.rounded_mono⟩
  have hlegible := legible_empty.afterAll hcalls
  have hasc := ascending_empty.afterAll calls
  have hcounts := counts_afterAll empty calls
  refine ⟨hlegible.answers_read, fun batch s' hdated hrun tc => ?_,
    hasc.countsOf hcounts (allSamples_fit hcalls), fun earlier e later ids s' hrun hnew => ?_,
    fun tc id s' hstarted hrun more => ?_⟩
  · have hok := StoreM.change_of_ok hrun
    have hlogged := saveEvents_of_ok hok
    have hlegible' := hlegible.logged hlogged hdated
    obtain ⟨added, hlog, hids, hsame⟩ := hlogged.log_append hdated
    have hordered := hlegible'.log_ordered (hasc.wrote (.events hok))
    rw [hlog] at hordered
    refine ⟨_, added.filter fun e => e.testCase == tc, hlegible.eventsOf_eq tc, ?_, ?_, ?_, ?_, ?_⟩
    · rw [hlegible'.eventsOf_eq tc, hlog, List.filter_append]
    · have hcase := congrArg (List.filter fun e : Event => e.testCase == tc) hsame
      rw [List.filter_map, List.filter_map] at hcase
      exact hcase
    · exact fun e he => hids e (List.mem_filter.mp he).1
    · rw [← List.filter_append]
      exact hordered.filter _
    · exact fun old hold e he => (List.pairwise_append.mp hordered).2.2 old hold e (List.mem_filter.mp he).1
  · obtain ⟨id, hid, hrow⟩ := hlegible.row_of_new hrun hnew
    have hlegible' := hlegible.saveEntities (earlier ++ e :: later)
    rw [show (saveEntities _ (earlier ++ e :: later)).2 = s' from congrArg Prod.snd hrun] at hlegible'
    refine ⟨id, hid, fun more hmore => ?_⟩
    exact (hlegible'.afterAll hmore).read_row (entity_mem_afterAll hrow more)
  · exact ((hasEnded_of_created (StoreM.writing_of_ok hrun)).afterAll more).testCase hstarted

/-- A test case before the epoch with an entity of no known type, an event and two samples of one
microsecond. -/
theorem reads_back_beforeEpoch :
    let calls := [StoreCall.write (.createTestCase (.fresh "a" "run" ⟨-1⟩)),
      .write (.saveEntities [.fresh "node" "u1" .unknown 1]),
      .write (.saveEvents [⟨none, "x1", 1, 1, .pvcAdded, ⟨-1500⟩⟩]),
      .write (.saveCounts [⟨1, ⟨1999⟩, .zero⟩, ⟨1, ⟨1001⟩, ⟨0, 1, 0, 0, 0, 0⟩⟩]),
      .write (.finishTestCase 1 true ⟨5000⟩)]
    let s := StoreCall.afterAll empty calls
    (∀ c ∈ calls, c.InRange) ∧ ReadsBack calls s ∧
      s.eventsOf 1 = .ok [⟨some 1, "x1", 1, 1, .pvcAdded, ⟨-2000⟩⟩] ∧
      s.entitiesOf 1 = .ok [⟨1, "node", "u1", .unknown, 1⟩] ∧
      s.testCase 1 = .ok (some ⟨1, "a", "run", ⟨-1000⟩, some ⟨5000⟩, some true⟩) := by
  intro calls s
  have hcalls : ∀ c ∈ calls, c.InRange := by decide +kernel
  exact ⟨hcalls, (reads_back hcalls).1, rfl, rfl, rfl⟩

end RelationalStore

end StorageLifecycle
