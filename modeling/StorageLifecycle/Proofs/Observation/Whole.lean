import StorageLifecycle.Observation
import StorageLifecycle.Proofs.Crew.Books

/-!
# Whole observations

An observation opens a test case, lets the four watchings have their turns until all have ended, closes
the test case and collects its metrics. If it gives an outcome, each of these parts has succeeded.
-/

namespace StorageLifecycle

variable {σ : Type}

namespace Observation

/-- An observation at its end: what comes of it, what is shared then, and the turns that were had. -/
structure Ended (σ : Type) where
  result : Except Cause Outcome
  shared : Shared σ
  deeds : List (Deed σ)

/-- A whole observation. Between its start and its end its watchings have their turns, and tokens are
cancelled in any order; to ask the runner to stop is to cancel some of them (`Runner.stop_eq`). It has
an end if all watchings have ended by then. The sessions are joined in some order. -/
def observe [EventStore σ] (settings : ObserverSettings) (tc : TestCase) (now : Instant)
    (happenings : List Happening) (join : List SessionReport → List SessionReport) (w : Shared σ) :
    Option (Ended σ) :=
  match Observation.begin settings tc w with
  | (.error cause, w) => some ⟨.error cause, w, []⟩
  | (.ok (tc, runner), w) =>
    let (crew, w') := runner.crew.proceed w happenings
    (Runner.wait { runner with crew } w').map fun (report, _, w') =>
      let (result, w') := conclude tc { report with sessions := join report.sessions } now w'
      ⟨result, w', runner.crew.journal w happenings⟩

end Observation

/-! ## The parts of an observation -/

namespace Runner

theorem build_of_ok {settings : ObserverSettings} {r : Runner}
    (h : build ⟨settings, true, true, ObserverKind.all⟩ = .ok r) :
    r.observers.map (·.kind) = ObserverKind.all ∧ r.crew.watchings = [] := by
  unfold build at h
  obtain ⟨_, _, h⟩ := bind_of_ok h
  cases h
  exact ⟨rfl, rfl⟩

/-- A watching of each observer is added, and all wait for their feeds. -/
theorem launchAll_watchings (id : TestCaseId) (parent : Token) (c : Crew) (os : List Observer) :
    ∃ added, (launchAll id parent c os).2.watchings = c.watchings ++ added ∧
      added.map (fun x => (x.kind, x.testCase)) = os.map (fun o => (o.kind, id)) ∧
      ∀ x ∈ added, x.phase = .opening := by
  induction os generalizing c with
  | nil => exact ⟨[], (List.append_nil _).symm, rfl, fun _ hx => nomatch hx⟩
  | cons o rest ih =>
      let first : Watching := ⟨o.kind, id, (o.reset c).1.own, parent, .opening⟩
      obtain ⟨added, hadded, hstatic, hopening⟩ := ih ((o.reset c).1.watch (o.reset c).2 id parent)
      refine ⟨first :: added, hadded.trans (List.append_assoc _ [first] _),
        congrArg (_ :: ·) hstatic, ?_⟩
      intro x hx
      rcases List.mem_cons.mp hx with rfl | hx
      · rfl
      · exact hopening x hx

theorem start_of_ok {r r' : Runner} {w w' : Shared σ} {tc : TestCase}
    (h : r.start w tc = .ok (r', w')) :
    r'.current = some tc ∧ w'.store = w.store ∧
      ∃ added, r'.crew.watchings = r.crew.watchings ++ added ∧
        added.map (fun x => (x.kind, x.testCase)) = r.observers.map (fun o => (o.kind, tc.id)) ∧
        ∀ x ∈ added, x.phase = .opening := by
  unfold start at h
  split at h
  · exact nomatch h
  · cases h
    exact ⟨rfl, rfl, launchAll_watchings tc.id _ _ _⟩

/-- The tokens that are cancelled when a runner is asked to stop. -/
def stopping (r : Runner) : List Happening := r.observers.map (.cancel ·.own) ++ [.cancel r.parent]

/-- To ask a runner to stop is to cancel the tokens of its observers, one by one, and then its own. -/
theorem stop_eq [EventStore σ] (r : Runner) (w : Shared σ) :
    (r.stop.crew, w) = r.crew.proceed w r.stopping := by
  have hobservers : ∀ (os : List Observer) (c : Crew),
      c.proceed w (os.map (.cancel ·.own)) = (os.foldl (fun c o => o.stop c) c, w) := by
    intro os
    induction os with
    | nil => exact fun c => rfl
    | cons o rest ih => exact fun c => ih _
  rw [stopping, Crew.proceed_append, hobservers]
  rfl

theorem wait_of_some {r r' : Runner} {w w' : Shared σ} {report : RunReport}
    (h : r.wait w = some (report, r', w')) :
    ∃ reports, r.crew.watchings.mapM (·.report?) = some reports ∧
      report = ⟨(r.current.map (·.id)).getD 0, reports, 0⟩ ∧ w'.store = w.store := by
  obtain ⟨reports, hreports, heq⟩ := Option.map_eq_some_iff.mp h
  cases heq
  exact ⟨reports, hreports, rfl, rfl⟩

end Runner

namespace Observation

variable {w w' : Shared σ}

theorem onStore_of_ok {α : Type} {cause : StoreError → Cause} {m : StoreM σ α} {a : α}
    (h : onStore cause m w = (.ok a, w')) : m.perform w.store = (.ok a, w'.store) := by
  have hrun : onStore cause m w =
      ((m.perform w.store).1.mapError cause, { w with store := (m.perform w.store).2 }) := rfl
  rw [hrun] at h
  generalize m.perform w.store = performed at h ⊢
  obtain ⟨answer, store⟩ := performed
  cases answer with
  | error e => exact nomatch congrArg Prod.fst h
  | ok a' =>
      cases h
      rfl

theorem tryObservers_of_ok {α : Type} {r : Except ObserverError α} {a : α}
    (h : tryObservers r w = (.ok a, w')) : r = .ok a ∧ w' = w := by
  cases r with
  | error e => exact nomatch congrArg Prod.fst h
  | ok a' =>
      cases h
      exact ⟨rfl, rfl⟩

variable [EventStore σ]

/-- An observation begins with a test case of its own, and with one watching of each kind. -/
theorem begin_of_ok {settings : ObserverSettings} {tc tc' : TestCase} {r : Runner}
    (h : Observation.begin settings tc w = (.ok (tc', r), w')) :
    ∃ id, (EventStore.createTestCase tc).perform w.store = (.ok id, w'.store) ∧
      tc'.id = id ∧ r.current = some tc' ∧
      r.crew.watchings.map (fun x => (x.kind, x.testCase)) = ObserverKind.all.map (·, id) ∧
      ∀ x ∈ r.crew.watchings, x.phase = .opening := by
  unfold Observation.begin at h
  obtain ⟨id, w₁, hcreate, hrest⟩ := run_of_ok h
  obtain ⟨r₀, w₂, hbuild, hlaunch⟩ := run_of_ok hrest
  obtain ⟨hbuilt, rfl⟩ := tryObservers_of_ok hbuild
  obtain ⟨hkinds, hnone⟩ := Runner.build_of_ok hbuilt
  split at hlaunch
  · rename_i r₁ w₃ hstart
    cases hlaunch
    obtain ⟨hcurrent, hstore, added, hadded, hstatic, hopening⟩ := Runner.start_of_ok hstart
    rw [hnone, List.nil_append] at hadded
    refine ⟨id, ?_, rfl, hcurrent, ?_, ?_⟩
    · rw [hstore]
      exact onStore_of_ok hcreate
    · rw [hadded, hstatic, ← hkinds, List.map_map]
      rfl
    · rw [hadded]
      exact hopening
  · exact nomatch congrArg Prod.fst hlaunch

/-- The metrics of an observation are those that are collected, or none if nothing was observed. -/
theorem collect_of_ok {id : TestCaseId} {metrics : Option CaseMetrics}
    (h : collect id w = (.ok metrics, w')) :
    (∃ m, CaseMetrics.collect id w.store = (.ok m, w'.store) ∧ metrics = some m) ∨
      ∃ what, CaseMetrics.collect id w.store = (.error (.runNotFound what), w'.store) ∧
        metrics = none := by
  unfold collect at h
  split at h
  · rename_i m store hm
    cases h
    exact Or.inl ⟨m, hm, rfl⟩
  · rename_i what store hm
    cases h
    exact Or.inr ⟨what, hm, rfl⟩
  · exact nomatch congrArg Prod.fst h

/-- An observation ends with its test case closed, its metrics collected and its test case read back. -/
theorem conclude_of_ok {tc : TestCase} {report : RunReport} {now : Instant} {o : Outcome}
    (h : conclude tc report now w = (.ok o, w')) :
    ∃ closed read stored,
      (EventStore.finishTestCase tc.id report.isClean now).perform w.store = (.ok (), closed) ∧
      ((∃ m, CaseMetrics.collect tc.id closed = (.ok m, read) ∧ o.metrics = some m) ∨
        ∃ what, CaseMetrics.collect tc.id closed = (.error (.runNotFound what), read) ∧
          o.metrics = none) ∧
      (EventStore.testCase tc.id).perform read = (.ok stored, w'.store) ∧
      o.testCase = stored.getD tc ∧ o.report = report := by
  -- A warning may come first; it leaves the store alone.
  obtain ⟨w₀, hstore, h⟩ : ∃ w₀ : Shared σ, w₀.store = w.store ∧
      (do
        onStore .finishTestCase (EventStore.finishTestCase tc.id report.isClean now)
        let metrics ← collect tc.id
        let stored ← onStore .readTestCase (EventStore.testCase tc.id)
        return ⟨stored.getD tc, report, metrics⟩ : ObservationM σ Outcome) w₀ = (.ok o, w') := by
    unfold conclude at h
    by_cases hunclean : (!report.isClean) = true
    · rw [if_pos hunclean] at h
      obtain ⟨_, w₀, htell, hrest⟩ := run_of_ok h
      cases htell
      exact ⟨w.tell _, rfl, hrest⟩
    · rw [if_neg hunclean] at h
      exact ⟨w, rfl, h⟩
  obtain ⟨_, w₁, hfinish, hmetrics⟩ := run_of_ok h
  obtain ⟨metrics, w₂, hcollect, hlast⟩ := run_of_ok hmetrics
  obtain ⟨stored, w₃, hread, hdone⟩ := run_of_ok hlast
  cases hdone
  have hfinished := onStore_of_ok hfinish
  rw [hstore] at hfinished
  exact ⟨w₁.store, w₂.store, stored, hfinished, collect_of_ok hcollect, onStore_of_ok hread, rfl, rfl⟩

/-- What happens in an observation that gives an outcome. -/
theorem observe_of_ok {settings : ObserverSettings} {tc : TestCase} {now : Instant}
    {happenings : List Happening} {join : List SessionReport → List SessionReport} {o : Outcome}
    {deeds : List (Deed σ)}
    (h : observe settings tc now happenings join w = some ⟨.ok o, w', deeds⟩) :
    ∃ tc' r opened reports done, Observation.begin settings tc w = (.ok (tc', r), opened) ∧
      deeds = r.crew.journal opened happenings ∧
      (r.crew.proceed opened happenings).1.watchings.mapM (·.report?) = some reports ∧
      done.store = (r.crew.proceed opened happenings).2.store ∧
      conclude tc' ⟨(r.current.map (·.id)).getD 0, join reports, 0⟩ now done = (.ok o, w') := by
  unfold observe at h
  split at h
  · exact nomatch congrArg (Option.map (·.result)) h
  · rename_i tc' r opened hbegin
    obtain ⟨⟨report, r', done⟩, hwait, heq⟩ := Option.map_eq_some_iff.mp h
    obtain ⟨reports, hreports, rfl, hstore⟩ := Runner.wait_of_some hwait
    refine ⟨tc', r, opened, reports, done, hbegin, ?_, hreports, hstore, ?_⟩
    · exact (congrArg Ended.deeds heq).symm
    · exact Prod.ext (congrArg Ended.result heq) (congrArg Ended.shared heq)

end Observation

end StorageLifecycle
