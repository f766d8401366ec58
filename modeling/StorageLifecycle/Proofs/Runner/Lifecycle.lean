import StorageLifecycle.Proofs.Observation.Accounting
import StorageLifecycle.Proofs.Runner.Situations

/-!
# The life of a runner

Whatever is done with a runner, its sessions live only while it runs. Since it cannot be started as long
as it runs, no observer gets another token and the registry is not cleared while a session is there that
might need them. So what a session of one test case leaves behind never reaches a session of the next
one, and each start is followed by one report of each observer.
-/

namespace StorageLifecycle.Runner

variable {σ : Type} [EventStore σ]

namespace Situation

def steps (p : Situation σ) (acts : List (Act σ)) : Situation σ := acts.foldl step p

/-- No wait among these acts returns. -/
def Unawaited (p : Situation σ) : List (Act σ) → Prop
  | [] => True
  | a :: rest => (a = .wait → p.runner.wait p.shared = none) ∧ (p.step a).Unawaited rest

/-- Two more turns of each session: its feed is opened or cannot be, and then the feed brings something
or has closed. -/
def lastTurns (n : Nat) (result : Nat → Except ObserverError Unit)
    (next : Nat → Option Session.Item) : List (Act σ) :=
  (List.range n).flatMap fun i => [.turn i (.answer (result i)), .turn i (.feed (next i))]

end Situation

/-- The last start that succeeded among the acts was that of a test case; it came after the acts `before`,
and no wait among the acts `later` has returned since. -/
structure Episode (first : Situation σ) (acts before : List (Act σ)) (tc : TestCase)
    (later : List (Act σ)) : Prop where
  split : acts = before ++ .start tc :: later
  succeeded : (first.steps before).runner.state ≠ .running
  unawaited : (first.steps (before ++ [.start tc])).Unawaited later

/-- What a runner owes to the test case that was started. -/
structure Situation.Owes (p : Situation σ) (kinds : List ObserverKind) (tc : TestCase)
    (asked : Prop) : Prop where
  running : p.runner.state = .running
  current : p.runner.current = some tc
  /-- A session is asked to stop when the runner was, and not before. -/
  stopped : ∀ x ∈ p.runner.crew.watchings, x.isStopped p.runner.crew.tokens = true ↔ asked
  /-- To wait is to wait for the end of all sessions. -/
  returns : (∃ answer, p.runner.wait p.shared = some answer) ↔
    ∀ x ∈ p.runner.crew.watchings, x.isEnded = true
  /-- They end when they are asked to and have had two more turns each. -/
  ending : ∀ result next, ∃ answer,
    let q := p.steps (.stop :: Situation.lastTurns p.runner.crew.watchings.length result next)
    q.runner.wait q.shared = some answer
  /-- There is one report of each observer that the runner was built of, and all are of this test case. -/
  report : ∀ report r w, p.runner.wait p.shared = some (report, r, w) →
    report.testCase = tc.id ∧ report.failedTasks = 0 ∧
      (∀ k, k ∈ report.sessions.map (·.observer) ↔ k ∈ kinds) ∧
      (report.sessions.map (·.observer.name)).Nodup ∧ r.state = .stopped

namespace Situation

variable {p : Situation σ} {kinds : List ObserverKind}

theorem steps_append (p : Situation σ) (acts later : List (Act σ)) :
    p.steps (acts ++ later) = (p.steps acts).steps later :=
  List.foldl_append

theorem unawaited_append (p : Situation σ) (acts later : List (Act σ)) :
    p.Unawaited (acts ++ later) ↔ p.Unawaited acts ∧ (p.steps acts).Unawaited later := by
  induction acts generalizing p with
  | nil => exact (and_iff_right trivial).symm
  | cons a rest ih => exact (and_congr_right' (ih (p.step a))).trans and_assoc.symm

theorem Managed.steps (h : p.Managed kinds) (acts : List (Act σ)) : (p.steps acts).Managed kinds := by
  induction acts generalizing p with
  | nil => exact h
  | cons a rest ih => exact ih (h.step a)

/-! ## Until a wait returns -/

/-- From a start until a wait returns a runner changes nothing but its crew, and all that is cancelled are
its own tokens, at a stop. -/
theorem steps_of_running (h : p.runner.state = .running) {later : List (Act σ)}
    (hwaits : p.Unawaited later) :
    ∃ crew, (p.steps later).runner = { p.runner with crew } ∧
      ∀ k, k ∈ crew.tokens.cancelled ↔
        k ∈ p.runner.crew.tokens.cancelled ∨ (.stop ∈ later ∧ k ∈ p.runner.tokens) := by
  induction later generalizing p with
  | nil => exact ⟨p.runner.crew, rfl, fun k => by simp⟩
  | cons a rest ih =>
      obtain ⟨crew, hstep, hcancelled⟩ := step_of_running h hwaits.1
      obtain ⟨crew', hsteps, hcancelled'⟩ := ih (by rw [hstep]; exact h) hwaits.2
      refine ⟨crew', ?_, fun k => ?_⟩
      · rw [hstep] at hsteps
        exact hsteps
      · rw [hcancelled', hstep, List.mem_cons]
        show k ∈ crew.tokens.cancelled ∨ _ ∧ k ∈ p.runner.tokens ↔ _
        rw [hcancelled, eq_comm (a := a)]
        tauto

/-- What is in the registry when no wait has returned was there before, or was published since. -/
theorem Managed.lookup_steps (h : p.Managed kinds) (hrunning : p.runner.state = .running)
    {later : List (Act σ)} (hwaits : p.Unawaited later) {v : String} {e : Entity}
    (he : (p.steps later).shared.registry.lookup v = some e) :
    p.shared.registry.lookup v = some e ∨ ∃ earlier i visit rest,
      later = earlier ++ .turn i visit :: rest ∧ (p.steps earlier).Publishes i visit v e := by
  induction later generalizing p with
  | nil => exact .inl he
  | cons a rest ih =>
      obtain ⟨crew, hstep, _⟩ := step_of_running hrunning hwaits.1
      rcases ih (h.step a) (by rw [hstep]; exact hrunning) hwaits.2 he with hold | hpublished
      · rcases (h.registry hrunning hwaits.1).2 v e hold with hold | ⟨i, visit, rfl, hpublishes⟩
        · exact .inl hold
        · exact .inr ⟨[], i, visit, rest, rfl, hpublishes⟩
      · obtain ⟨earlier, i, visit, rest', rfl, hpublishes⟩ := hpublished
        exact .inr ⟨a :: earlier, i, visit, rest', rfl, hpublishes⟩

/-- While a runner runs its observers keep their tokens, and nothing is taken out of the registry. -/
theorem Managed.spared (h : p.Managed kinds) (hrunning : p.runner.state = .running) (a : Act σ) :
    (p.step a).runner.tokens = p.runner.tokens ∧
      ∀ v, (p.shared.registry.lookup v).isSome → ((p.step a).shared.registry.lookup v).isSome := by
  by_cases hreturns : a = .wait ∧ ∃ answer, p.runner.wait p.shared = some answer
  · obtain ⟨rfl, answer, hwait⟩ := hreturns
    have hwaited := waited_of_wait hwait h.ofCase
    rw [step_wait_of_some hwait, hwaited.registry, hwaited.left]
    exact ⟨rfl, fun v hv => hv⟩
  · have hwait : a = .wait → p.runner.wait p.shared = none := fun ha =>
      Option.eq_none_iff_forall_ne_some.mpr fun answer hanswer => hreturns ⟨ha, answer, hanswer⟩
    obtain ⟨crew, hstep, _⟩ := step_of_running hrunning hwait
    exact ⟨by rw [hstep]; rfl, (h.registry hrunning hwait).1⟩

/-! ## The end of the sessions -/

/-- After two more turns a session that was asked to stop has ended, and the others are as they were. -/
theorem two_turns {i : Nat} {x : Watching} (hx : p.runner.crew.watchings[i]? = some x)
    (hstopped : x.isStopped p.runner.crew.tokens = true) (result : Except ObserverError Unit)
    (next : Option Session.Item) :
    ∃ y, y.isEnded = true ∧
      (p.steps [.turn i (.answer result), .turn i (.feed next)]).runner.crew =
        { p.runner.crew with watchings := p.runner.crew.watchings.set i y } := by
  have hturn : ∀ (q : Situation σ) (y : Watching) (visit : Visit), q.runner.crew.watchings[i]? = some y →
      (q.step (.turn i visit)).runner.crew = { q.runner.crew with
        watchings := q.runner.crew.watchings.set i (y.attend q.runner.crew.tokens q.shared visit).1 } := by
    intro q y visit hy
    rcases Crew.attend_cases q.runner.crew q.shared i visit with ⟨hnone, _⟩ | ⟨z, hz, heq⟩
    · exact nomatch hnone.symm.trans hy
    · cases hz.symm.trans hy
      exact congrArg (·.1) heq
  have hfirst := hturn p x (.answer result) hx
  have hi : i < p.runner.crew.watchings.length := (List.getElem?_eq_some_iff.mp hx).1
  have hsecond := hturn (p.step (.turn i (.answer result)))
    (x.attend p.runner.crew.tokens p.shared (.answer result)).1 (.feed next)
    (by rw [hfirst]; exact List.getElem?_set_self hi)
  refine ⟨_, Watching.isEnded_of_stopped hstopped p.shared
    (p.step (.turn i (.answer result))).shared result next, ?_⟩
  refine hsecond.trans ?_
  rw [hfirst]
  exact congrArg (Crew.mk _) (List.set_set _)

/-- When the sessions were asked to stop and some of them have had two more turns each, these have ended,
and the others are as they were. -/
theorem ended_lastTurns {n : Nat} (hn : n ≤ p.runner.crew.watchings.length)
    (hstopped : ∀ x ∈ p.runner.crew.watchings, x.isStopped p.runner.crew.tokens = true)
    (result : Nat → Except ObserverError Unit) (next : Nat → Option Session.Item) :
    ∃ watchings, (p.steps (lastTurns n result next)).runner.crew = { p.runner.crew with watchings } ∧
      watchings.length = p.runner.crew.watchings.length ∧
      (∀ i x, watchings[i]? = some x → i < n → x.isEnded = true) ∧
      ∀ i, n ≤ i → watchings[i]? = p.runner.crew.watchings[i]? := by
  induction n with
  | zero => exact ⟨_, rfl, rfl, fun i x _ hi => absurd hi (Nat.not_lt_zero i), fun i _ => rfl⟩
  | succ n ih =>
      obtain ⟨watchings, hcrew, hlength, hended, hothers⟩ := ih (Nat.le_of_succ_le hn)
      have hlast : lastTurns (σ := σ) (n + 1) result next =
          lastTurns n result next ++ [.turn n (.answer (result n)), .turn n (.feed (next n))] := by
        unfold lastTurns
        rw [List.range_succ, List.flatMap_append, List.flatMap_singleton]
      rw [hlast, steps_append]
      generalize p.steps (lastTurns n result next) = q at hcrew
      obtain ⟨x, hx⟩ : ∃ x, p.runner.crew.watchings[n]? = some x :=
        ⟨_, List.getElem?_eq_getElem hn⟩
      obtain ⟨y, hy, hturns⟩ := two_turns (p := q) (i := n) (x := x)
        (by rw [hcrew]; exact (hothers n (Nat.le_refl n)).trans hx)
        (by rw [hcrew]; exact hstopped x (List.mem_of_getElem? hx)) (result n) (next n)
      rw [hcrew] at hturns
      refine ⟨watchings.set n y, hturns, (List.length_set ..).trans hlength, fun i z hz hi => ?_,
        fun i hi => ?_⟩
      · by_cases heq : n = i
        · subst heq
          rw [List.getElem?_set_self (hlength.symm ▸ hn)] at hz
          cases hz
          exact hy
        · rw [List.getElem?_set_ne heq] at hz
          exact hended i z hz (by omega)
      · rw [List.getElem?_set_ne (by omega)]
        exact hothers i (by omega)

/-! ## From a start on -/

/-- When a runner was asked to stop and its sessions have had two more turns each, a wait returns. -/
theorem Managed.returns_after_stop (h : p.Managed kinds) (result : Nat → Except ObserverError Unit)
    (next : Nat → Option Session.Item) :
    ∃ answer, let q := p.steps (.stop :: lastTurns p.runner.crew.watchings.length result next)
      q.runner.wait q.shared = some answer := by
  obtain ⟨crew, hstop, hwatchings, _, hcancelled⟩ := p.runner.stop_cancels
  have hstep : p.step .stop = ⟨{ p.runner with crew }, p.shared⟩ :=
    congrArg (Situation.mk · p.shared) hstop
  have hmanaged := h.step .stop
  rw [hstep] at hmanaged
  have hstopped : ∀ x ∈ crew.watchings, x.isStopped crew.tokens = true := by
    intro x hx
    refine (hmanaged.stopped_iff (fun k hk => iff_true_intro ?_) hx).mpr trivial
    exact (hcancelled k).mpr (.inr hk)
  obtain ⟨watchings, hcrew, hlength, hended, _⟩ :=
    ended_lastTurns (p := ⟨{ p.runner with crew }, p.shared⟩) (Nat.le_refl _) hstopped result next
  show ∃ answer, ((p.step .stop).steps (lastTurns p.runner.crew.watchings.length result next)).runner.wait
    ((p.step .stop).steps (lastTurns p.runner.crew.watchings.length result next)).shared = some answer
  rw [hstep, ← hwatchings]
  refine (wait_returns _ _).mpr fun x hx => ?_
  rw [hcrew] at hx
  obtain ⟨i, hi⟩ := List.mem_iff_getElem?.mp hx
  exact hended i x hi (hlength ▸ (List.getElem?_eq_some_iff.mp hi).1)

end Situation

namespace Episode

variable {first : Situation σ} {acts before later : List (Act σ)} {tc : TestCase}
  {kinds : List ObserverKind}

/-- If a runner runs, there was a start that succeeded, and no wait has returned since. -/
theorem exists_of_running (h : first.Managed kinds) (hidle : first.runner.state ≠ .running)
    (hrunning : (first.steps acts).runner.state = .running) :
    ∃ before tc later, Episode first acts before tc later := by
  induction acts using List.reverseRecOn with
  | nil => exact absurd hrunning hidle
  | append_singleton acts a ih =>
      have hstep : first.steps (acts ++ [a]) = (first.steps acts).step a := first.steps_append acts [a]
      rw [hstep] at hrunning
      by_cases hbefore : (first.steps acts).runner.state = .running
      · obtain ⟨before, tc, later, hepisode⟩ := ih hbefore
        refine ⟨before, tc, later ++ [a], ?_, hepisode.succeeded, ?_⟩
        · rw [hepisode.split, List.append_assoc]
          rfl
        · refine (Situation.unawaited_append _ later [a]).mpr ⟨hepisode.unawaited, ?_, trivial⟩
          rw [← Situation.steps_append, List.append_assoc, List.singleton_append, ← hepisode.split]
          rintro rfl
          cases hwait : (first.steps acts).runner.wait (first.steps acts).shared with
          | none => rfl
          | some answer =>
              -- a wait that returns leaves the runner stopped
              rw [Situation.step_wait_of_some hwait,
                (waited_of_wait hwait (h.steps acts).ofCase).left] at hrunning
              exact nomatch (if_pos hbefore).symm.trans hrunning
      · by_cases hstart : ∃ tc, a = .start tc
        · obtain ⟨tc, rfl⟩ := hstart
          exact ⟨acts, tc, [], rfl, hbefore, trivial⟩
        · refine absurd hrunning ((h.steps acts).step_of_not_running hbefore ?_)
          exact fun tc ha => hstart ⟨tc, ha⟩

/-- What has come of an episode: the runner that was started, with another crew. -/
theorem sequel (h : Episode first acts before tc later) (hfirst : first.Managed kinds) :
    ∃ start : Situation σ, start = first.steps (before ++ [.start tc]) ∧ start.Managed kinds ∧
      start.Fresh tc ∧ start.Unawaited later ∧ first.steps acts = start.steps later := by
  obtain ⟨r, w, hok, hmanaged, hfresh⟩ := (hfirst.steps before).start h.succeeded tc
  have hstart : first.steps (before ++ [.start tc]) = ⟨r, w⟩ :=
    (first.steps_append before [.start tc]).trans (Situation.step_start_of_ok hok)
  refine ⟨⟨r, w⟩, hstart.symm, hmanaged, hfresh, hstart ▸ h.unawaited, ?_⟩
  rw [h.split, ← hstart, ← Situation.steps_append, List.append_assoc]
  rfl

/-- Since the start the runner has run for this test case, and all that was cancelled since are its own
tokens, at a stop. -/
theorem running (h : Episode first acts before tc later) (hfirst : first.Managed kinds) :
    (first.steps acts).runner.state = .running ∧ (first.steps acts).runner.current = some tc ∧
      ∀ k ∈ (first.steps acts).runner.tokens,
        k ∈ (first.steps acts).runner.crew.tokens.cancelled ↔ .stop ∈ later := by
  obtain ⟨start, _, hmanaged, hfresh, hwaits, hnow⟩ := h.sequel hfirst
  obtain ⟨crew, hrunner, hcancelled⟩ := Situation.steps_of_running hfresh.running hwaits
  rw [hnow, hrunner]
  refine ⟨hfresh.running, hfresh.current, fun k hk => (hcancelled k).trans ?_⟩
  have hk : k ∈ start.runner.tokens := hk
  simp only [hfresh.tokens k hk, hk, and_true, false_or]

theorem owes (h : Episode first acts before tc later) (hfirst : first.Managed (distinct kinds)) :
    (first.steps acts).Owes kinds tc (.stop ∈ later) := by
  obtain ⟨hrunning, hcurrent, hcancelled⟩ := h.running hfirst
  have hmanaged := hfirst.steps acts
  refine ⟨hrunning, hcurrent, fun x hx => hmanaged.stopped_iff hcancelled hx, wait_returns _ _,
    hmanaged.returns_after_stop, fun report r w hwait => ?_⟩
  have hwaited := waited_of_wait hwait hmanaged.ofCase
  have hkinds : report.sessions.map (·.observer) = distinct kinds := by
    obtain ⟨_, _, hposts⟩ := hmanaged.manned hrunning
    have hposts := congrArg (List.map (·.1)) hposts
    rw [List.map_map, List.map_map] at hposts
    exact hwaited.observers.trans (hposts.trans hmanaged.kinds)
  refine ⟨?_, hwaited.failedTasks, fun k => ?_, ?_, ?_⟩
  · rw [hwaited.testCase, hcurrent]
    rfl
  · rw [hkinds, mem_distinct]
  · rw [show report.sessions.map (·.observer.name) = (distinct kinds).map (·.name) by
      rw [← hkinds, List.map_map]; rfl]
    exact (nodup_distinct kinds).map ObserverKind.name_injective
  · rw [hwaited.left]
    exact if_pos hrunning

/-- What is in the registry was published since the start, by sessions of the same test case. -/
theorem published (h : Episode first acts before tc later) (hfirst : first.Managed kinds) {v : String}
    {e : Entity} (he : (first.steps acts).shared.registry.lookup v = some e) :
    e.testCase = tc.id ∧ ∃ earlier i visit rest, later = earlier ++ .turn i visit :: rest ∧
      (first.steps (before ++ .start tc :: earlier)).Publishes i visit v e := by
  obtain ⟨start, hstart, hmanaged, hfresh, hwaits, hnow⟩ := h.sequel hfirst
  rw [hnow] at he
  rcases hmanaged.lookup_steps hfresh.running hwaits he with hold | hpublished
  · rw [hfresh.registry] at hold
    exact nomatch hold
  · obtain ⟨earlier, i, visit, rest, rfl, hpublishes⟩ := hpublished
    have hthen : first.steps (before ++ .start tc :: earlier) = start.steps earlier := by
      rw [hstart, ← Situation.steps_append, List.append_assoc]
      rfl
    have hepisode : Episode first (before ++ .start tc :: earlier) before tc earlier :=
      ⟨rfl, h.succeeded, ((Situation.unawaited_append _ _ _).mp h.unawaited).1⟩
    rw [← hthen] at hpublishes
    refine ⟨?_, earlier, i, visit, rest, rfl, hpublishes⟩
    obtain ⟨x, hx, hown⟩ := hpublishes.own
    obtain ⟨_, _, _, tc', hcurrent, hcase⟩ :=
      (hfirst.steps (before ++ .start tc :: earlier)).post_of_mem (List.mem_of_getElem? hx)
    cases hcurrent.symm.trans (hepisode.running hfirst).2.1
    exact hown.trans hcase

end Episode

/-! ## Whatever is done with a runner -/

/-- After these acts the test cases of a runner are kept apart. -/
structure Isolated (kinds : List ObserverKind) (first : Situation σ) (acts : List (Act σ)) : Prop where
  /-- There are sessions only while the runner runs. -/
  manned : ∀ x ∈ (first.steps acts).runner.crew.watchings, (first.steps acts).runner.state = .running
  /-- As long as it runs, no observer gets another token, and nothing is taken out of the registry. -/
  spared : (first.steps acts).runner.state = .running → ∀ a,
    ((first.steps acts).step a).runner.tokens = (first.steps acts).runner.tokens ∧
      ∀ v, ((first.steps acts).shared.registry.lookup v).isSome →
        (((first.steps acts).step a).shared.registry.lookup v).isSome
  /-- A start fails exactly while the runner runs, and then it changes nothing. -/
  refused : ∀ tc, ((∃ e, (first.steps acts).runner.start (first.steps acts).shared tc = .error e) ↔
      (first.steps acts).runner.state = .running) ∧
    ((first.steps acts).runner.state = .running → (first.steps acts).step (.start tc) = first.steps acts)
  /-- Since a start that succeeded the runner owes a report to its test case, until a wait returns. -/
  owed : ∀ before tc later, Episode first acts before tc later →
    (first.steps acts).Owes kinds tc (.stop ∈ later)
  /-- What a session can look up was published since the start of its test case. -/
  published : ∀ x ∈ (first.steps acts).runner.crew.watchings, ∃ before tc later,
    Episode first acts before tc later ∧ x.testCase = tc.id ∧
      ∀ v e, (first.steps acts).shared.registry.lookup v = some e → e.testCase = tc.id ∧
        ∃ earlier i visit rest, later = earlier ++ .turn i visit :: rest ∧
          (first.steps (before ++ .start tc :: earlier)).Publishes i visit v e

/-- Whatever is done with a runner that was built, in whichever order, and whatever its sessions do in
between: its test cases are kept apart. -/
theorem test_cases_isolated {parts : Parts} {r : Runner} (hbuilt : build parts = .ok r) (w : Shared σ)
    (acts : List (Act σ)) : Isolated parts.kinds ⟨r, w⟩ acts := by
  obtain ⟨hfirst, hidle⟩ := Situation.managed_of_build hbuilt w
  have hmanaged := hfirst.steps acts
  refine ⟨fun x hx => (hmanaged.post_of_mem hx).1, hmanaged.spared, fun tc => ⟨⟨?_, ?_⟩, ?_⟩,
    fun before tc later h => h.owes hfirst, fun x hx => ?_⟩
  · rintro ⟨e, he⟩
    by_contra hne
    obtain ⟨_, _, hok, _⟩ := hmanaged.start hne tc
    exact nomatch he.symm.trans hok
  · exact fun hrunning => ⟨_, Situation.start_of_running hrunning tc⟩
  · exact fun hrunning => Situation.step_start_of_running hrunning tc
  · obtain ⟨hrunning, _, _, tc, hcurrent, hcase⟩ := hmanaged.post_of_mem hx
    obtain ⟨before, tc', later, h⟩ := Episode.exists_of_running hfirst hidle hrunning
    cases hcurrent.symm.trans (h.running hfirst).2.1
    exact ⟨before, tc, later, h, hcase, fun v e he => h.published hfirst he⟩

/-- A claim is bound in two test cases, one after the other. The second start comes too early at first,
when the sessions of the first test case were asked to stop and have not ended. -/
def boundTwice : List (Act MemoryStore) :=
  let first : TestCase := ⟨1, "pvc", "nightly", .epoch, none, none⟩
  let second : TestCase := ⟨2, "pvc", "weekly", .epoch, none, none⟩
  let bound : Visit := .feed (some (.notification
    ⟨.modified, some (.claim ⟨"data", "u1", some "Bound", some "pv", none⟩), ⟨2⟩⟩))
  [.start first, .turn 0 (.answer (.ok ())), .turn 1 (.answer (.error (.watchOpen "Pod" "forbidden"))),
    .turn 0 bound, .stop, .start second, .wait, .turn 0 (.feed none), .wait, .start second,
    .turn 0 (.answer (.ok ())), .turn 0 bound]

theorem test_cases_isolated_boundTwice :
    ∃ r, build ⟨.default, true, true, [.claim, .pod, .claim]⟩ = .ok r ∧
      (let now := Situation.steps ⟨r, .start .empty⟩ boundTwice
      now.runner.crew.watchings.map (·.testCase) = [2, 2] ∧
        (now.shared.registry.lookup "pv").map (·.testCase) = some 2) ∧
      Isolated [.claim, .pod, .claim] ⟨r, .start .empty⟩ boundTwice := by
  obtain ⟨r, hbuilt⟩ : ∃ r, build ⟨.default, true, true, [.claim, .pod, .claim]⟩ = .ok r := ⟨_, rfl⟩
  refine ⟨r, hbuilt, ?_, test_cases_isolated hbuilt _ _⟩
  cases hbuilt
  decide +kernel

end StorageLifecycle.Runner
