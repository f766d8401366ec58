import StorageLifecycle.Proofs.Backends.Durations
import StorageLifecycle.Proofs.Backends.RoundTrip
import StorageLifecycle.Proofs.Metrics.Peaks
import StorageLifecycle.Proofs.Session.Sampling

/-!
# From listings to peaks

What a session samples of its listings is stored when it ends cleanly, and it is read back when the
metrics of its test case are collected, next to the samples that were stored for the test case before and
after. So the peaks are the greatest counts of all of these, over both stores.
-/

namespace StorageLifecycle

open CaseMetrics Relational

/-! ## Samples that are stored -/

section

variable {σ : Type} [EventStore σ]

/-- The samples of a call, if they are accepted. -/
def StoreCall.sampled (s : σ) : StoreCall → List CountSample
  | .write (.saveCounts batch) =>
    match ((EventStore.saveCounts batch).perform s).1 with
    | .ok _ => batch
    | .error _ => []
  | _ => []

/-- The samples of calls, as far as they are accepted. -/
def StoreCall.sampledAll (s : σ) : List StoreCall → List CountSample
  | [] => []
  | c :: rest => c.sampled s ++ sampledAll (c.after s) rest

theorem StoreCall.sampledAll_append (s : σ) (calls later : List StoreCall) :
    sampledAll s (calls ++ later) = sampledAll s calls ++ sampledAll (afterAll s calls) later := by
  induction calls generalizing s with
  | nil => rfl
  | cons c rest ih =>
      rw [List.cons_append, sampledAll, sampledAll, ih, List.append_assoc]
      rfl

/-- What is collected for a test case of which there is something has the peaks of these samples, as far
as they are of the test case. -/
def CollectsPeaks (s : σ) (samples : List CountSample) : Prop :=
  ∀ id, ¬HasNothing s id → ∃ m, CaseMetrics.collect id s = (.ok m, s) ∧
    m.peaks.Summarizes ((samples.filter fun c => c.testCase == id).map (·.tally))

theorem Answers.collect_peaks {s : σ} {entities : List Entity} {log : List Event} {id : TestCaseId}
    (h : Answers s entities log) (hsome : ¬HasNothing s id) :
    ∃ m samples, CaseMetrics.collect id s = (.ok m, s) ∧
      (EventStore.counts id).perform s = (.ok samples, s) ∧ m.peaks = .ofSamples samples := by
  have hinvolved : entities.filter (involves log id) ≠ [] :=
    fun hnone => hsome (h.hasNothing_iff.mpr (h.ne_of_none_involved hnone))
  obtain ⟨m, samples, hcollect, hsamples, -, -, hpeaks⟩ := h.collect_found id hinvolved
  exact ⟨m, samples, hcollect, hsamples, hpeaks⟩

end

/-! ### The store in memory -/

namespace MemoryStore

variable {m m' : MemoryStore}

/-- Whatever else is written leaves the samples alone. -/
theorem counts_of_written {w : StoreWrite} (h : m.Written w m') (hw : ∀ batch, w ≠ .saveCounts batch) :
    m'.counts = m.counts := by
  cases h with
  | refused => rfl
  | entities batch => exact (saveEntities_rest m batch).2.1
  | events hok =>
      obtain ⟨_, _, _, _, _, _, hcounts, _⟩ := saveEvents_of_ok hok
      exact hcounts
  | counts batch => exact absurd rfl (hw batch)
  | created tc => rfl
  | closed _ => rfl

theorem counts_after (m : MemoryStore) (c : StoreCall) :
    (c.after m).counts = m.counts ++ c.sampled m := by
  cases c with
  | read r =>
      rw [after_read]
      exact (List.append_nil _).symm
  | write w =>
      have hwritten := m.written_run w
      cases w with
      | saveCounts batch =>
          rw [StoreCall.after, StoreWrite.run, StoreM.perform_map]
          rfl
      | _ =>
          refine (counts_of_written hwritten fun batch heq => ?_).trans (List.append_nil _).symm
          cases heq

theorem counts_afterAll (m : MemoryStore) (calls : List StoreCall) :
    (StoreCall.afterAll m calls).counts = m.counts ++ StoreCall.sampledAll m calls := by
  induction calls generalizing m with
  | nil => exact (List.append_nil _).symm
  | cons c rest ih =>
      refine (ih _).trans ?_
      rw [StoreCall.sampledAll, ← List.append_assoc, counts_after]

theorem collectsPeaks (calls : List StoreCall) :
    CollectsPeaks (StoreCall.afterAll empty calls) (StoreCall.sampledAll empty calls) := by
  intro id hsome
  obtain ⟨metrics, samples, hcollect, hsamples, hpeaks⟩ :=
    (regular_empty.afterAll calls).answers.collect_peaks hsome
  refine ⟨metrics, hcollect, ?_⟩
  cases hsamples
  rw [hpeaks, countsOf, counts_afterAll]
  exact Peaks.ofSamples_summarizes _

end MemoryStore

/-! ### The relational store -/

namespace RelationalStore

theorem sampled_eq (s : RelationalStore) (c : StoreCall) : c.sampled s = s.samples c := by
  cases c with
  | read r => rfl
  | write w =>
      cases w with
      | saveCounts batch =>
          show (match ((StoreM.writing fun s : RelationalStore =>
            (s.saveCounts batch).map ((), ·)).perform s).1 with | .ok _ => batch | .error _ => []) = _
          unfold StoreM.writing StoreM.perform samples
          dsimp only
          cases s.saveCounts batch <;> rfl
      | _ => rfl

theorem sampledAll_eq (s : RelationalStore) (calls : List StoreCall) :
    StoreCall.sampledAll s calls = s.allSamples calls := by
  induction calls generalizing s with
  | nil => rfl
  | cons c rest ih => rw [StoreCall.sampledAll, allSamples, sampled_eq, ih]

theorem collectsPeaks {calls : List StoreCall} (hcalls : ∀ c ∈ calls, c.InRange) :
    CollectsPeaks (StoreCall.afterAll empty calls) (StoreCall.sampledAll empty calls) := by
  intro id hsome
  obtain ⟨metrics, samples, hcollect, hsamples, hpeaks⟩ :=
    (legible_empty.afterAll hcalls).answers.collect_peaks hsome
  refine ⟨metrics, hcollect, ?_⟩
  have hread := (ascending_empty.afterAll calls).countsOf (counts_afterAll empty calls)
    (allSamples_fit hcalls) id
  cases hread.symm.trans (congrArg Prod.fst hsamples)
  rw [hpeaks, sampledAll_eq]
  refine (Peaks.ofSamples_summarizes _).of_perm ?_
  refine ((List.mergeSort_perm _ _).map _).trans (List.Perm.of_eq ?_)
  rw [List.map_map]
  rfl

end RelationalStore

/-! ## The end of a session that counts -/

section

variable {σ : Type} [EventStore σ] {id : TestCaseId} {listings : List Session.Listing} {s : Session}
  {w : Shared σ}

theorem MemoryStore.clean_of_samples (h : s.Samples id listings) (w : Shared MemoryStore) :
    (s.finish .stop w).1.isClean = true := by
  rw [(h.finish_saves w).1]
  rcases Session.saveUnlessEmpty_cases s.counts EventStore.saveCounts w.store with ⟨-, hsaved⟩ | hsaved
  · rw [hsaved]
    rfl
  · rw [hsaved]
    rfl

/-- What a clean end does to the store is what at most one call does, and this call saves the samples. -/
theorem Session.Samples.finish_calls (h : s.Samples id listings)
    (hclean : (s.finish .stop w).1.isClean = true) :
    ∃ calls, (s.finish .stop w).2.2.store = StoreCall.afterAll w.store calls ∧
      StoreCall.sampledAll w.store calls = s.counts ∧ ∀ c ∈ calls, c = .write (.saveCounts s.counts) := by
  obtain ⟨hanswer, hstore⟩ := h.finish_saves w
  rw [hstore]
  rw [hanswer] at hclean
  rcases saveUnlessEmpty_cases s.counts EventStore.saveCounts w.store with ⟨hnone, hsaved⟩ | hsaved
  · refine ⟨[], ?_, hnone.symm, List.forall_mem_nil _⟩
    rw [hsaved]
    rfl
  · rw [hsaved] at hclean ⊢
    refine ⟨[.write (.saveCounts s.counts)], ?_, ?_, List.forall_mem_singleton.mpr rfl⟩
    · show _ = ((StoreWrite.saveCounts s.counts).run.perform w.store).2
      rw [StoreWrite.run, StoreM.perform_map]
    · show StoreCall.sampled w.store (.write (.saveCounts s.counts)) ++ [] = _
      rw [List.append_nil, StoreCall.sampled]
      cases hans : ((EventStore.saveCounts s.counts).perform w.store).1 with
      | ok u => rfl
      | error e =>
          rw [hans] at hclean
          cases hclean

/-- If the session ends cleanly, then whatever calls follow, what is collected for a test case of which
there is something has the peaks of all its samples: those that were saved before, those of the session,
and those of the calls that follow. -/
def ShowsPeaks (id : TestCaseId) (s : Session) (saved : List CountSample) (w : Shared σ)
    (later : List StoreCall) : Prop :=
  let left := s.finish .stop w
  let final := StoreCall.afterAll left.2.2.store later
  left.1.isClean = true → ¬HasNothing final id → ∃ m, CaseMetrics.collect id final = (.ok m, final) ∧
    m.peaks.Summarizes (((saved ++ s.counts ++ StoreCall.sampledAll left.2.2.store later).filter
      fun c => c.testCase == id).map (·.tally))

/-- It is so over every store that collects peaks after all calls that are fit for it. -/
theorem Session.Samples.showsPeaks (h : s.Samples id listings) {empty : σ} {fits : StoreCall → Prop}
    (hpeaks : ∀ calls, (∀ c ∈ calls, fits c) →
      CollectsPeaks (StoreCall.afterAll empty calls) (StoreCall.sampledAll empty calls))
    {before later : List StoreCall} (hcalls : ∀ c ∈ before ++ later, fits c)
    (hsave : fits (.write (.saveCounts s.counts))) (hw : w.store = StoreCall.afterAll empty before) :
    ShowsPeaks id s (StoreCall.sampledAll empty before) w later := by
  intro hclean hsome
  obtain ⟨calls, hstore, hsampled, hcall⟩ := h.finish_calls hclean
  obtain ⟨hbefore, hlater⟩ := List.forall_mem_append.mp hcalls
  have hown : ∀ c ∈ calls, fits c := fun c hc => hcall c hc ▸ hsave
  have hall : ∀ c ∈ before ++ calls ++ later, fits c :=
    List.forall_mem_append.mpr ⟨List.forall_mem_append.mpr ⟨hbefore, hown⟩, hlater⟩
  have hleft : (s.finish .stop w).2.2.store = StoreCall.afterAll empty (before ++ calls) := by
    rw [hstore, hw, StoreCall.afterAll_append]
  have hfinal : StoreCall.afterAll (s.finish .stop w).2.2.store later =
      StoreCall.afterAll empty (before ++ calls ++ later) := by
    rw [hleft, StoreCall.afterAll_append empty (before ++ calls)]
  have hsamples : StoreCall.sampledAll empty (before ++ calls ++ later) =
      StoreCall.sampledAll empty before ++ s.counts ++
        StoreCall.sampledAll (s.finish .stop w).2.2.store later := by
    rw [StoreCall.sampledAll_append, StoreCall.sampledAll_append, ← hw, hsampled, hleft]
  rw [← hsamples]
  rw [hfinal] at hsome ⊢
  exact hpeaks _ hall id hsome

end

/-! ## Both stores -/

/-- The moments and the counts of samples can be written. -/
theorem Session.Samples.inRange {id : TestCaseId} {listings : List Session.Listing} {s : Session}
    (h : s.Samples id listings) (hsize : ∀ c ∈ s.counts, ∀ n ∈ c.tally.toList, n < Word.bound 32)
    (hdated : ∀ l ∈ listings, l.observedAt.OnCalendar) :
    StoreCall.InRange (.write (.saveCounts s.counts)) :=
  fun c hc => ⟨(h.moments Instant.OnCalendar hdated).2 c hc, hsize c hc⟩

/-- Whatever listings a session that counts is fed, each of fewer resources than counts of 32 bits reach:
it shares nothing while it takes them, and holds one sample of each. The sample counts each pod and each
claim of the listing once, and it stays the same when the listing is in another order or has more
resources of other kinds. When the session has ended cleanly, what is collected for its test case has the
greatest of each of the six counts over all samples of the test case, in whatever order they are. Before
the session ends and after it anything may be called; in the relational store moments must be on the
calendar, and counts must have 32 bits. -/
theorem peaks_of_listings (id : TestCaseId) (listings : List Session.Listing)
    (hsize : ∀ l ∈ listings, l.pods.length < Word.bound 32 ∧ l.claims.length < Word.bound 32) :
    let s := Session.sampleAll id listings
    (∀ (σ : Type) [EventStore σ] (w : Shared σ),
      (Session.start .count id).takeAll w (listings.map .listing) = (s, w)) ∧
    List.Forall₂ (fun l c => c.testCase = id ∧ l.CountedAs c.tally ∧
      ∀ n ∈ c.tally.toList, n < Word.bound 32) listings s.counts ∧
    (∀ others, List.Forall₂ Session.Listing.Resembles listings others →
      (Session.sampleAll id others).counts = s.counts) ∧
    (∀ samples samples' : List CountSample, (samples.map (·.tally)).Perm (samples'.map (·.tally)) →
      Peaks.ofSamples samples = .ofSamples samples') ∧
    ∀ (before later : List StoreCall) (registry : Registry) (supply : Supply) (signals : List Signal),
      (let w : Shared MemoryStore := ⟨StoreCall.afterAll .empty before, registry, supply, signals⟩
       (s.finish .stop w).1.isClean = true ∧
         ShowsPeaks id s (StoreCall.sampledAll MemoryStore.empty before) w later) ∧
      ((∀ c ∈ before ++ later, c.InRange) → (∀ l ∈ listings, l.observedAt.OnCalendar) →
        let w : Shared RelationalStore := ⟨StoreCall.afterAll .empty before, registry, supply, signals⟩
        ShowsPeaks id s (StoreCall.sampledAll RelationalStore.empty before) w later) := by
  intro s
  have hs := Session.samples_sampleAll id listings
  have hcounted : List.Forall₂ (fun l c => c.testCase = id ∧ l.CountedAs c.tally ∧
      ∀ n ∈ c.tally.toList, n < Word.bound 32) listings s.counts := by
    refine ((List.forall₂_and_left _ _).mpr ⟨hsize, hs.counts⟩).imp ?_
    rintro l c ⟨⟨hpods, hclaims⟩, hcase, hcounted⟩
    exact ⟨hcase, hcounted, hcounted.lt hpods hclaims⟩
  have hfit : ∀ c ∈ s.counts, ∀ n ∈ c.tally.toList, n < Word.bound 32 := by
    have hboth : List.Forall₂ (fun c _ => (∀ n ∈ c.tally.toList, n < Word.bound 32) ∧ True) s.counts
        listings := List.Forall₂.flip (hcounted.imp fun l c h => ⟨h.2.2, trivial⟩)
    exact ((List.forall₂_and_left _ _).mp hboth).1
  refine ⟨fun σ _ w => Session.takeAll_listings _ w listings, hcounted, fun others hsame => ?_,
    fun _ _ => Peaks.ofSamples_eq_of_perm, fun before later registry supply signals =>
      ⟨⟨MemoryStore.clean_of_samples hs _, ?_⟩, ?_⟩⟩
  · exact congrArg Session.counts (Session.foldl_sample_eq hsame _).symm
  · exact hs.showsPeaks (fun calls (_ : ∀ c ∈ calls, True) => MemoryStore.collectsPeaks calls)
      (fun _ _ => trivial) trivial rfl
  · intro hcalls hdated w
    exact hs.showsPeaks (fun calls => RelationalStore.collectsPeaks) hcalls (hs.inRange hfit hdated) rfl

/-- Pods and claims are listed with resources of other kinds, and some of them while they are deleted. The
clock goes back before the second listing. -/
def mixedListings : List Session.Listing :=
  let leaving : Option Rfc3339.Stamp := some ⟨1, 0⟩
  [⟨[.pod ⟨"web-0", "u1", none, true, leaving⟩, .claim ⟨"data-0", "u4", some "Bound", some "pv", none⟩,
      .pod ⟨"web-1", "u2", none, true, none⟩, .pod ⟨"web-2", "u3", none, true, none⟩],
    [.pod ⟨"web-1", "u2", none, true, none⟩, .claim ⟨"data-0", "u4", some "Bound", some "pv", leaving⟩,
      .claim ⟨"data-1", "u5", some "Pending", none, none⟩], ⟨2000⟩⟩,
    ⟨[.pod ⟨"web-1", "u2", none, false, none⟩],
      [.claim ⟨"data-1", "u5", some "Bound", some "pv", none⟩], ⟨1000⟩⟩]

/-- Both stores collect the same peaks for a test case with a pod, though no sample shows all of them. -/
theorem peaks_of_listings_mixed :
    let s := Session.sampleAll 1 mixedListings
    let before := [StoreCall.write (.createTestCase (.fresh "a" "run" ⟨0⟩)),
      .write (.saveEntities [.fresh "web-1" "u2" .pod 1])]
    let later := [StoreCall.write (.finishTestCase 1 true ⟨5000⟩)]
    let memory := s.finish .stop (.start (StoreCall.afterAll MemoryStore.empty before))
    let relational := s.finish .stop (.start (StoreCall.afterAll RelationalStore.empty before))
    let m := StoreCall.afterAll memory.2.2.store later
    let r := StoreCall.afterAll relational.2.2.store later
    let attachment := Snapshot.attachment ⟨"csi", "u6", some "pv", true, none⟩
    (∀ l ∈ mixedListings, l.pods.length < Word.bound 32 ∧ l.claims.length < Word.bound 32) ∧
      s.counts.map (·.tally) = [⟨0, 2, 1, 1, 0, 1⟩, ⟨1, 0, 0, 0, 1, 0⟩] ∧
      (Session.sampleAll 1 (mixedListings.map fun l =>
        ⟨attachment :: l.pods.reverse, attachment :: l.claims, l.observedAt⟩)).counts = s.counts ∧
      memory.1.isClean = true ∧ relational.1.isClean = true ∧
      (∃ metrics, CaseMetrics.collect 1 m = (.ok metrics, m) ∧
        metrics.peaks = ⟨2, ⟨1, 2, 1, 1, 1, 1⟩⟩) ∧
      ∃ metrics, CaseMetrics.collect 1 r = (.ok metrics, r) ∧
        metrics.peaks = ⟨2, ⟨1, 2, 1, 1, 1, 1⟩⟩ := by
  intro s before later memory relational m r attachment
  have hs := Session.samples_sampleAll 1 mixedListings
  have hsize : ∀ l ∈ mixedListings, l.pods.length < Word.bound 32 ∧ l.claims.length < Word.bound 32 := by
    decide +kernel
  have hcalls : ∀ c ∈ before ++ later, c.InRange := by decide +kernel
  have hdated : ∀ l ∈ mixedListings, l.observedAt.OnCalendar := by decide +kernel
  have hpeaks : ∀ p : Peaks, p.Summarizes (s.counts.map (·.tally)) → p = ⟨2, ⟨1, 2, 1, 1, 1, 1⟩⟩ :=
    fun p hp => (hp.unique (Peaks.ofSamples_summarizes s.counts)).trans (by decide +kernel)
  obtain ⟨-, -, hsame, -, hends⟩ := peaks_of_listings 1 mixedListings hsize
  obtain ⟨⟨hmemory, hinMemory⟩, hinRelational⟩ := hends before later .empty .counting []
  have hrelational : relational.1.isClean = true := by
    rw [(hs.finish_saves _).1]
    rfl
  refine ⟨hsize, by decide +kernel, hsame _ ?_, hmemory, hrelational, ?_, ?_⟩
  · refine List.forall₂_map_right_iff.mpr (List.forall₂_same.mpr fun l _ => ?_)
    exact Session.Listing.resembles_of_perm
      (((List.reverse_perm _).cons attachment).trans (List.perm_append_singleton _ _).symm)
      (List.forall_mem_singleton.mpr nofun) (List.perm_append_singleton _ _).symm
      (List.forall_mem_singleton.mpr nofun)
  · have hrow : ((EventStore.entities 1).perform m).1 = .ok [⟨1, "web-1", "u2", .pod, 1⟩] := by
      rw [show m = StoreCall.afterAll _ later from congrArg (StoreCall.afterAll · later) (hs.finish_saves _).2]
      rfl
    obtain ⟨metrics, hcollect, hsummary⟩ := hinMemory hmemory
      fun h => nomatch hrow.symm.trans (congrArg Prod.fst h.1)
    exact ⟨metrics, hcollect, hpeaks _ hsummary⟩
  · have hrow : ((EventStore.entities 1).perform r).1 = .ok [⟨1, "web-1", "u2", .pod, 1⟩] := by
      rw [show r = StoreCall.afterAll _ later from congrArg (StoreCall.afterAll · later) (hs.finish_saves _).2]
      rfl
    obtain ⟨metrics, hcollect, hsummary⟩ := hinRelational hcalls hdated hrelational
      fun h => nomatch hrow.symm.trans (congrArg Prod.fst h.1)
    exact ⟨metrics, hcollect, hpeaks _ hsummary⟩

end StorageLifecycle
