import StorageLifecycle.Proofs.Config.Precedence
import StorageLifecycle.Proofs.Observation.Whole

/-!
# Limits of a configuration

The rules of a configuration and those of the observers agree on the watch timeout. The interval between
samples and the buffer for notifications only have to be positive in a configuration, and the observers
set limits to them. Between the two there are configurations that are accepted and cannot be run: an
observation with one of them stores its test case, and ends before anything is watched.
-/

namespace StorageLifecycle

namespace ObserverSettings

/-- What the rules of a configuration make sure of. -/
structure Positive (s : ObserverSettings) : Prop where
  timeout : s.watchTimeoutSecs ≠ 0 ∧ s.watchTimeoutSecs ≤ maxWatchTimeoutSecs
  interval : s.countPollIntervalMs ≠ 0
  buffer : s.notificationBuffer ≠ 0

/-- What the observers need beyond that. -/
structure WithinLimits (s : ObserverSettings) : Prop where
  interval : s.countPollIntervalMs ≤ maxCountPollIntervalMs
  buffer : s.notificationBuffer ≤ maxNotificationBuffer

variable {s : ObserverSettings}

/-- Of positive settings the observers refuse those that are beyond a limit, and name it. -/
theorem validate_of_positive (h : s.Positive) :
    (s.WithinLimits ∧ s.validate = .ok ()) ∨
      (¬ s.WithinLimits ∧ ∃ field reason, s.validate = .error (.config field reason) ∧
        (field = "count_poll_interval_ms" ∧ maxCountPollIntervalMs < s.countPollIntervalMs ∨
          field = "notification_buffer" ∧ maxNotificationBuffer < s.notificationBuffer)) := by
  have htimeout : ¬ (s.watchTimeoutSecs = 0 ∨ s.watchTimeoutSecs > maxWatchTimeoutSecs) := by
    rintro (hzero | hlong)
    · exact h.timeout.1 hzero
    · exact Nat.not_le.mpr hlong h.timeout.2
  unfold validate
  rw [if_neg htimeout]
  by_cases hinterval : s.countPollIntervalMs ≤ maxCountPollIntervalMs
  · rw [if_neg (not_or.mpr ⟨h.interval, Nat.not_lt.mpr hinterval⟩)]
    by_cases hbuffer : s.notificationBuffer ≤ maxNotificationBuffer
    · rw [if_neg (not_or.mpr ⟨h.buffer, Nat.not_lt.mpr hbuffer⟩)]
      exact .inl ⟨⟨hinterval, hbuffer⟩, rfl⟩
    · rw [if_pos (.inr (Nat.not_le.mp hbuffer))]
      exact .inr ⟨fun hlimits => hbuffer hlimits.buffer, _, _, rfl, .inr ⟨rfl, Nat.not_le.mp hbuffer⟩⟩
  · rw [if_pos (.inr (Nat.not_le.mp hinterval))]
    exact .inr ⟨fun hlimits => hinterval hlimits.interval, _, _, rfl, .inl ⟨rfl, Nat.not_le.mp hinterval⟩⟩

end ObserverSettings

theorem Config.positive_of_validate {c : Config} (h : c.validate = .ok ()) : c.observer.Positive := by
  unfold validate at h
  split_ifs at h with _ _ htimeout hinterval hbuffer
  obtain ⟨hzero, hlong⟩ := not_or.mp htimeout
  exact ⟨⟨hzero, Nat.not_lt.mp hlong⟩, hinterval, hbuffer⟩

namespace Observation

variable {σ : Type} [EventStore σ] {w : Shared σ} {tc : TestCase} {id : TestCaseId} {store : σ}

/-- Once the test case is stored, all depends on whether the observers accept their settings. -/
theorem begin_of_created (settings : ObserverSettings)
    (h : (EventStore.createTestCase tc).perform w.store = (.ok id, store)) :
    (∀ e, settings.validate = .error e →
      Observation.begin settings tc w = (.error (.observers e), { w with store })) ∧
    (settings.validate = .ok () → ∃ runner w', w'.store = store ∧
      Observation.begin settings tc w = (.ok ({ tc with id }, runner), w')) := by
  have hstored : onStore .createTestCase (EventStore.createTestCase tc) w = (.ok id, { w with store }) := by
    unfold onStore
    rw [show EventStore.createTestCase tc w.store = (.ok id, store) from h]
    rfl
  unfold Observation.begin
  rw [run_bind_ok _ hstored]
  constructor
  · intro e hinvalid
    refine run_bind_error _ ?_
    unfold Runner.build
    rw [hinvalid]
    rfl
  · intro hvalid
    obtain ⟨runner, hbuild, hstate⟩ : ∃ runner,
        Runner.build ⟨settings, true, true, ObserverKind.all⟩ = .ok runner ∧ runner.state = .initialized := by
      unfold Runner.build
      rw [hvalid]
      exact ⟨_, rfl, rfl⟩
    obtain ⟨runner', w', hstart⟩ : ∃ runner' w',
        runner.start { w with store } { tc with id } = .ok (runner', w') := by
      unfold Runner.start
      rw [if_neg (by rw [hstate]; decide)]
      exact ⟨_, _, rfl⟩
    refine ⟨runner', w', (Runner.start_of_ok hstart).2.1, ?_⟩
    have hbuilt : tryObservers (Runner.build ⟨settings, true, true, ObserverKind.all⟩) { w with store } =
        (.ok runner, { w with store }) := by
      rw [hbuild]
      rfl
    rw [run_bind_ok _ hbuilt, hstart]

/-- All that is loaded has been accepted. Of the configurations that are accepted, the observers accept those
within their limits. With one of these an observation begins once its test case is stored. With any other it
is over at this point, whatever would happen next: it fails with the limit that is exceeded, and leaves the
store as it was left with the new test case, which nobody closes any more. -/
theorem runs_iff_withinLimits :
    (∀ (line : CommandLine) (file : ConfigFile) (env : Environment) (l : CommandLine.Loaded),
      line.load file env = .ok l → l.config.validate = .ok ()) ∧
    ∀ c : Config, c.validate = .ok () →
      (c.observer.validate = .ok () ↔ c.observer.WithinLimits) ∧
      ∀ (tc : TestCase) (w : Shared σ) (id : TestCaseId) (store : σ),
        (EventStore.createTestCase tc).perform w.store = (.ok id, store) →
        (c.observer.WithinLimits → ∃ runner w', w'.store = store ∧
          Observation.begin c.observer tc w = (.ok ({ tc with id }, runner), w')) ∧
        (¬ c.observer.WithinLimits → ∃ field reason,
          (field = "count_poll_interval_ms" ∧ maxCountPollIntervalMs < c.observer.countPollIntervalMs ∨
            field = "notification_buffer" ∧ maxNotificationBuffer < c.observer.notificationBuffer) ∧
          ∀ now happenings join, observe c.observer tc now happenings join w =
            some ⟨.error (.observers (.config field reason)), { w with store }, []⟩) := by
  refine ⟨fun _ _ _ _ h => (CommandLine.loaded_of_loadBy h).2.2.1, fun c hc => ?_⟩
  rcases ObserverSettings.validate_of_positive (Config.positive_of_validate hc) with
    ⟨hlimits, hvalid⟩ | ⟨hbeyond, field, reason, hinvalid, hfield⟩
  · refine ⟨⟨fun _ => hlimits, fun _ => hvalid⟩, fun tc w id store hcreate => ⟨fun _ => ?_, absurd hlimits⟩⟩
    exact (begin_of_created c.observer hcreate).2 hvalid
  · refine ⟨⟨fun hvalid => ?_, fun hlimits => absurd hlimits hbeyond⟩, fun tc w id store hcreate => ?_⟩
    · exact nomatch hinvalid.symm.trans hvalid
    · refine ⟨fun hlimits => absurd hlimits hbeyond, fun _ => ⟨field, reason, hfield, ?_⟩⟩
      intro now happenings join
      unfold observe
      rw [(begin_of_created c.observer hcreate).1 _ hinvalid]

/-- The defaults are within the limits. -/
theorem runs_iff_withinLimits_default :
    Config.default.validate = .ok () ∧ ∃ runner w',
      w'.store = (MemoryStore.empty.createTestCase (.fresh "a" "r" ⟨0⟩)).2 ∧
      Observation.begin Config.default.observer (.fresh "a" "r" ⟨0⟩) (.start MemoryStore.empty) =
        (.ok ({ TestCase.fresh "a" "r" ⟨0⟩ with id := 1 }, runner), w') := by
  refine ⟨rfl, ?_⟩
  obtain ⟨-, hruns⟩ := (runs_iff_withinLimits (σ := MemoryStore)).2 Config.default rfl
  exact (hruns (.fresh "a" "r" ⟨0⟩) (.start .empty) 1 _ rfl).1 ⟨by decide, by decide⟩

/-- A configuration that samples a bit less than once a minute. -/
def slowSampling : Config :=
  { Config.default with observer := { ObserverSettings.default with countPollIntervalMs := 60001 } }

/-- It can be loaded from a file and is accepted. But an observation with it fails, and leaves an open test
case in the store. -/
theorem not_runs_slowSampling :
    (CommandLine.empty.load (.content "[observer]\ncount_poll_interval_ms = 60001\n".toUTF8) []).toOption.map
      (·.config) = some slowSampling ∧
    slowSampling.validate = .ok () ∧ slowSampling.observer.validate ≠ .ok () ∧
    ∃ ended, observe slowSampling.observer (.fresh "a" "r" ⟨0⟩) ⟨0⟩ [] (fun reports => reports)
        (.start MemoryStore.empty) = some ended ∧
      ended.result.toOption.isNone = true ∧ ended.shared.store.testCases.map (·.endedAt) = [none] :=
  ⟨by decide +kernel, rfl, nofun, _, rfl, rfl, rfl⟩

end Observation

end StorageLifecycle
