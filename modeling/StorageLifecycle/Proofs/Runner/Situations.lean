import StorageLifecycle.Proofs.Runner.Acts

/-!
# Runners and what happens to them

Between the acts of the caller the sessions of a runner have their turns and others work on the store.
Whatever happens, a runner stays managed: it has sessions only while it runs, and each of them holds the
tokens that its observer and the runner hold now. While a runner runs only a wait that returns changes
more than its crew.
-/

namespace StorageLifecycle.Runner

/-- What is done with a runner, and what happens while its sessions work. -/
inductive Act (σ : Type) where
  | start (tc : TestCase)
  | stop
  | wait
  /-- The session at this place has its turn. -/
  | turn (i : Nat) (visit : Visit)
  /-- Others have worked on the store and left it like this. -/
  | outside (store : σ)

/-- A runner and what its sessions share. -/
structure Situation (σ : Type) where
  runner : Runner
  shared : Shared σ

namespace Situation

variable {σ : Type} {p : Situation σ} {kinds : List ObserverKind}

/-- What is true of a runner and its sessions all along. -/
structure Managed (kinds : List ObserverKind) (p : Situation σ) : Prop where
  kinds : p.runner.observers.map (·.kind) = kinds
  idle : p.runner.state ≠ .running → p.runner.crew.watchings = []
  manned : p.runner.state = .running → ∃ tc, p.runner.current = some tc ∧
    p.runner.crew.watchings.map Watching.post =
      p.runner.observers.map fun o => (o.kind, tc.id, o.own, p.runner.parent)
  ofCase : ∀ x ∈ p.runner.crew.watchings, x.OfCase
  cancelled : ∀ k ∈ p.runner.crew.tokens.cancelled, k < p.runner.crew.tokens.next
  tokens : ∀ k ∈ p.runner.tokens, k < p.runner.crew.tokens.next

/-- How a runner is right after a start. -/
structure Fresh (p : Situation σ) (tc : TestCase) : Prop where
  running : p.runner.state = .running
  current : p.runner.current = some tc
  registry : p.shared.registry = .empty
  tokens : ∀ k ∈ p.runner.tokens, k ∉ p.runner.crew.tokens.cancelled

theorem managed_of_build {parts : Parts} {r : Runner} (h : build parts = .ok r) (w : Shared σ) :
    Managed (distinct parts.kinds) ⟨r, w⟩ ∧ r.state ≠ .running := by
  obtain ⟨hsupplied, hnone⟩ := createAll_supplied .empty (distinct parts.kinds)
  unfold build at h
  obtain ⟨_, _, h⟩ := bind_of_ok h
  cases hsource : parts.hasSource <;> rw [hsource] at h
  · exact nomatch h
  cases hstore : parts.hasStore <;> rw [hstore] at h
  · exact nomatch h
  cases hkinds : parts.kinds.isEmpty <;> rw [hkinds] at h
  · cases h
    generalize createAll .empty (distinct parts.kinds) = created at hsupplied hnone
    refine ⟨⟨hsupplied.kinds, fun _ => hnone, nofun, ?_, ?_, ?_⟩, nofun⟩
    · show ∀ x ∈ created.2.watchings, _
      rw [hnone]
      exact List.forall_mem_nil _
    · show ∀ k ∈ created.2.tokens.cancelled, _
      rw [hsupplied.cancelled]
      exact List.forall_mem_nil _
    · refine List.forall_mem_cons.mpr ⟨Nat.lt_succ_self _, List.forall_mem_map.mpr fun o ho => ?_⟩
      exact Nat.lt_succ_of_lt (hsupplied.own o ho).2
  · exact nomatch h

/-- What a start that succeeds makes of a runner without sessions. -/
theorem Managed.start (h : p.Managed kinds) (hidle : p.runner.state ≠ .running) (tc : TestCase) :
    ∃ r w, p.runner.start p.shared tc = .ok (r, w) ∧ Managed kinds ⟨r, w⟩ ∧ Fresh ⟨r, w⟩ tc := by
  obtain ⟨hsupplied, hwatchings⟩ :=
    launchAll_supplied tc.id p.runner.crew.fresh.1 p.runner.crew.fresh.2 p.runner.observers
  have hnone : p.runner.crew.fresh.2.watchings = [] := h.idle hidle
  rw [hnone, List.nil_append] at hwatchings
  have hstart : ∃ launched w, p.runner.start p.shared tc = .ok ({ p.runner with
        observers := launched.1
        parent := p.runner.crew.tokens.next
        current := some tc
        state := .running
        crew := launched.2 }, w) ∧ w.registry = .empty ∧
      launched = launchAll tc.id p.runner.crew.fresh.1 p.runner.crew.fresh.2 p.runner.observers :=
    ⟨_, _, if_neg hidle, rfl, rfl⟩
  obtain ⟨launched, w, hstart, hregistry, hlaunched⟩ := hstart
  rw [← hlaunched] at hsupplied hwatchings
  refine ⟨_, w, hstart, ?_⟩
  have hnext : p.runner.crew.tokens.next < launched.2.tokens.next := hsupplied.next
  refine ⟨⟨hsupplied.kinds.trans h.kinds, fun hne => absurd rfl hne, fun _ => ⟨tc, rfl, ?_⟩,
    ?_, ?_, ?_⟩, rfl, rfl, hregistry, ?_⟩
  · show launched.2.watchings.map _ = _
    rw [hwatchings, List.map_map]
    rfl
  · show ∀ x ∈ launched.2.watchings, _
    rw [hwatchings]
    exact List.forall_mem_map.mpr fun o _ => Watching.ofCase_of_opening rfl
  · show ∀ k ∈ launched.2.tokens.cancelled, _
    rw [hsupplied.cancelled]
    exact fun k hk => Nat.lt_trans (h.cancelled k hk) hnext
  · refine List.forall_mem_cons.mpr ⟨hnext, List.forall_mem_map.mpr fun o ho => ?_⟩
    exact (hsupplied.own o ho).2
  · -- what was cancelled before was handed out before
    have hold : ∀ k, p.runner.crew.tokens.next ≤ k → k ∉ launched.2.tokens.cancelled := by
      intro k hk hcancelled
      rw [hsupplied.cancelled] at hcancelled
      exact absurd (h.cancelled k hcancelled) (Nat.not_lt.mpr hk)
    refine List.forall_mem_cons.mpr ⟨hold _ (Nat.le_refl _), List.forall_mem_map.mpr fun o ho => ?_⟩
    exact hold _ (Nat.le_of_succ_le (hsupplied.own o ho).1)

theorem start_of_running (h : p.runner.state = .running) (tc : TestCase) :
    p.runner.start p.shared tc = .error alreadyRunning :=
  if_pos h

theorem Managed.stop (h : p.Managed kinds) : Managed kinds ⟨p.runner.stop, p.shared⟩ := by
  obtain ⟨crew, hstop, hwatchings, hnext, hcancelled⟩ := p.runner.stop_cancels
  rw [hstop]
  refine ⟨h.kinds, hwatchings ▸ h.idle, hwatchings ▸ h.manned, hwatchings ▸ h.ofCase, ?_, ?_⟩
  · intro k hk
    rw [hnext]
    rcases (hcancelled k).mp hk with hk | hk
    · exact h.cancelled k hk
    · exact h.tokens k hk
  · exact hnext ▸ h.tokens

theorem Managed.wait (h : p.Managed kinds) {report : RunReport} {r : Runner} {w : Shared σ}
    (hwait : p.runner.wait p.shared = some (report, r, w)) : Managed kinds ⟨r, w⟩ := by
  rw [(waited_of_wait hwait h.ofCase).left]
  refine ⟨h.kinds, fun _ => rfl, ?_, List.forall_mem_nil _, h.cancelled, h.tokens⟩
  show ite _ _ _ = _ → _
  split
  · exact nofun
  · exact fun hrunning => absurd hrunning ‹_›

/-- A session is of the test case at hand, and goes by the tokens of the runner. -/
theorem Managed.post_of_mem (h : p.Managed kinds) {x : Watching} (hx : x ∈ p.runner.crew.watchings) :
    p.runner.state = .running ∧ x.own ∈ p.runner.tokens ∧ x.parent ∈ p.runner.tokens ∧
      ∃ tc, p.runner.current = some tc ∧ x.testCase = tc.id := by
  have hrunning : p.runner.state = .running := by
    by_contra hne
    rw [h.idle hne] at hx
    exact nomatch hx
  obtain ⟨tc, hcurrent, hposts⟩ := h.manned hrunning
  have hpost : x.post ∈ p.runner.observers.map fun o => (o.kind, tc.id, o.own, p.runner.parent) :=
    hposts ▸ List.mem_map_of_mem hx
  obtain ⟨o, ho, heq⟩ := List.mem_map.mp hpost
  have hown : o.own = x.own := congrArg (·.2.2.1) heq
  have hparent : p.runner.parent = x.parent := congrArg (·.2.2.2) heq
  refine ⟨hrunning, ?_, hparent ▸ List.mem_cons_self, tc, hcurrent, (congrArg (·.2.1) heq).symm⟩
  exact hown ▸ List.mem_cons_of_mem _ (List.mem_map_of_mem ho)

/-- The sessions of a runner are asked to stop when its tokens are cancelled. -/
theorem Managed.stopped_iff (h : p.Managed kinds) {asked : Prop}
    (hcancelled : ∀ k ∈ p.runner.tokens, k ∈ p.runner.crew.tokens.cancelled ↔ asked) {x : Watching}
    (hx : x ∈ p.runner.crew.watchings) : x.isStopped p.runner.crew.tokens = true ↔ asked := by
  obtain ⟨_, hown, hparent, _⟩ := h.post_of_mem hx
  unfold Watching.isStopped Tokens.isCancelled
  rw [Bool.or_eq_true, List.contains_iff_mem, List.contains_iff_mem, hcancelled _ hown,
    hcancelled _ hparent, or_self]

variable [EventStore σ]

theorem Managed.turn (h : p.Managed kinds) (i : Nat) (visit : Visit) :
    Managed kinds ⟨{ p.runner with crew := (p.runner.crew.attend p.shared i visit).1 },
      (p.runner.crew.attend p.shared i visit).2⟩ := by
  have hposts := Crew.attend_map (fun x t w visit => Watching.attend_post x t w visit) p.runner.crew
    p.shared i visit
  rcases Crew.attend_cases p.runner.crew p.shared i visit with ⟨_, heq⟩ | ⟨x, hx, heq⟩
  · rw [heq]
    exact h
  · rw [heq] at hposts ⊢
    have hmem := List.mem_of_getElem? hx
    refine ⟨h.kinds, fun hne => ?_, fun hrunning => ?_, fun y hy => ?_, h.cancelled, h.tokens⟩
    · rw [h.idle hne] at hmem
      exact nomatch hmem
    · obtain ⟨tc, hcurrent, hpost⟩ := h.manned hrunning
      exact ⟨tc, hcurrent, hposts.trans hpost⟩
    · rcases List.mem_or_eq_of_mem_set hy with hy | rfl
      · exact h.ofCase y hy
      · exact ((h.ofCase x hmem).attend p.runner.crew.tokens p.shared visit).1

/-- What comes of an act. A start that fails changes nothing, and a wait goes on until all sessions have
ended. -/
def step (p : Situation σ) : Act σ → Situation σ
  | .start tc =>
    match p.runner.start p.shared tc with
    | .ok (r, w) => ⟨r, w⟩
    | .error _ => p
  | .stop => ⟨p.runner.stop, p.shared⟩
  | .wait =>
    match p.runner.wait p.shared with
    | some (_, r, w) => ⟨r, w⟩
    | none => p
  | .turn i visit =>
    let (crew, w) := p.runner.crew.attend p.shared i visit
    ⟨{ p.runner with crew }, w⟩
  | .outside store => ⟨p.runner, { p.shared with store }⟩

theorem step_start_of_ok {tc : TestCase} {r : Runner} {w : Shared σ}
    (h : p.runner.start p.shared tc = .ok (r, w)) : p.step (.start tc) = ⟨r, w⟩ := by
  simp only [step, h]

theorem step_start_of_running (h : p.runner.state = .running) (tc : TestCase) :
    p.step (.start tc) = p := by
  simp only [step, start_of_running h]

theorem step_wait_of_some {report : RunReport} {r : Runner} {w : Shared σ}
    (h : p.runner.wait p.shared = some (report, r, w)) : p.step .wait = ⟨r, w⟩ := by
  simp only [step, h]

theorem step_wait_of_none (h : p.runner.wait p.shared = none) : p.step .wait = p := by
  simp only [step, h]

theorem Managed.step (h : p.Managed kinds) (a : Act σ) : (p.step a).Managed kinds := by
  cases a with
  | start tc =>
      by_cases hrunning : p.runner.state = .running
      · rw [step_start_of_running hrunning]
        exact h
      · obtain ⟨r, w, hok, hmanaged, _⟩ := h.start hrunning tc
        rw [step_start_of_ok hok]
        exact hmanaged
  | stop => exact h.stop
  | wait =>
      cases hwait : p.runner.wait p.shared with
      | none =>
          rw [step_wait_of_none hwait]
          exact h
      | some answer =>
          rw [step_wait_of_some hwait]
          exact h.wait hwait
  | turn i visit => exact h.turn i visit
  | outside store => exact ⟨h.kinds, h.idle, h.manned, h.ofCase, h.cancelled, h.tokens⟩

/-- Only a start makes a runner run. -/
theorem Managed.step_of_not_running (h : p.Managed kinds) (hidle : p.runner.state ≠ .running) {a : Act σ}
    (ha : ∀ tc, a ≠ .start tc) : (p.step a).runner.state ≠ .running := by
  cases a with
  | start tc => exact absurd rfl (ha tc)
  | stop =>
      obtain ⟨crew, hstop, _⟩ := p.runner.stop_cancels
      show p.runner.stop.state ≠ _
      rw [hstop]
      exact hidle
  | wait =>
      cases hwait : p.runner.wait p.shared with
      | none =>
          rw [step_wait_of_none hwait]
          exact hidle
      | some answer =>
          rw [step_wait_of_some hwait, (waited_of_wait hwait h.ofCase).left]
          show ite _ _ _ ≠ _
          rw [if_neg hidle]
          exact hidle
  | turn i visit => exact hidle
  | outside store => exact hidle

/-- While a runner runs, what happens changes only its crew, and of this neither the posts nor, but for a
stop, the cancelled tokens; unless it is a wait that returns. -/
theorem step_of_running (h : p.runner.state = .running) {a : Act σ}
    (hwait : a = .wait → p.runner.wait p.shared = none) :
    ∃ crew, (p.step a).runner = { p.runner with crew } ∧
      ∀ k, k ∈ crew.tokens.cancelled ↔
        k ∈ p.runner.crew.tokens.cancelled ∨ (a = .stop ∧ k ∈ p.runner.tokens) := by
  have hsame : (p.step a).runner = p.runner → a ≠ .stop → ∃ crew, (p.step a).runner = { p.runner with crew } ∧
      ∀ k, k ∈ crew.tokens.cancelled ↔
        k ∈ p.runner.crew.tokens.cancelled ∨ (a = .stop ∧ k ∈ p.runner.tokens) :=
    fun heq ha => ⟨p.runner.crew, heq, fun k => ⟨.inl, fun hk => hk.resolve_right fun hk => ha hk.1⟩⟩
  cases a with
  | start tc => exact hsame (congrArg _ (step_start_of_running h tc)) nofun
  | wait => exact hsame (congrArg _ (step_wait_of_none (hwait rfl))) nofun
  | outside store => exact hsame rfl nofun
  | stop =>
      obtain ⟨crew, hstop, _, _, hcancelled⟩ := p.runner.stop_cancels
      refine ⟨crew, hstop, fun k => (hcancelled k).trans ?_⟩
      exact or_congr_right (and_iff_right rfl).symm
  | turn i visit =>
      refine ⟨(p.runner.crew.attend p.shared i visit).1, rfl, fun k => ?_⟩
      have htokens : (p.runner.crew.attend p.shared i visit).1.tokens = p.runner.crew.tokens := by
        rcases Crew.attend_cases p.runner.crew p.shared i visit with ⟨_, heq⟩ | ⟨x, _, heq⟩ <;> rw [heq]
      rw [htokens]
      exact ⟨.inl, fun hk => hk.resolve_right fun hk => nomatch hk.1⟩

/-- At its turn the session at a place puts an entity of its own test case into the registry, which was
not there under this name before. -/
structure Publishes (p : Situation σ) (i : Nat) (visit : Visit) (volume : String) (e : Entity) : Prop where
  own : ∃ x, p.runner.crew.watchings[i]? = some x ∧ e.testCase = x.testCase
  before : p.shared.registry.lookup volume ≠ some e
  after : (p.step (.turn i visit)).shared.registry.lookup volume = some e

/-- While a runner runs its registry is never cleared, and nothing comes into it but by its sessions. -/
theorem Managed.registry (h : p.Managed kinds) (hrunning : p.runner.state = .running) {a : Act σ}
    (hwait : a = .wait → p.runner.wait p.shared = none) :
    (∀ v, (p.shared.registry.lookup v).isSome → ((p.step a).shared.registry.lookup v).isSome) ∧
      ∀ v e, (p.step a).shared.registry.lookup v = some e → p.shared.registry.lookup v = some e ∨
        ∃ i visit, a = .turn i visit ∧ p.Publishes i visit v e := by
  have hsame : (p.step a).shared.registry = p.shared.registry →
      (∀ v, (p.shared.registry.lookup v).isSome → ((p.step a).shared.registry.lookup v).isSome) ∧
        ∀ v e, (p.step a).shared.registry.lookup v = some e → p.shared.registry.lookup v = some e ∨
          ∃ i visit, a = .turn i visit ∧ p.Publishes i visit v e := by
    intro heq
    rw [heq]
    exact ⟨fun v hv => hv, fun v e he => .inl he⟩
  cases a with
  | start tc => exact hsame (by rw [step_start_of_running hrunning])
  | wait => exact hsame (by rw [step_wait_of_none (hwait rfl)])
  | stop => exact hsame rfl
  | outside store => exact hsame rfl
  | turn i visit =>
      rcases Crew.attend_cases p.runner.crew p.shared i visit with ⟨_, heq⟩ | ⟨x, hx, heq⟩
      · exact hsame (congrArg (·.2.registry) heq)
      · obtain ⟨_, hgrows⟩ := (h.ofCase x (List.mem_of_getElem? hx)).attend p.runner.crew.tokens p.shared
          visit
        rw [show (x.attend p.runner.crew.tokens p.shared visit).2 =
          (p.step (.turn i visit)).shared from (congrArg (·.2) heq).symm] at hgrows
        refine ⟨hgrows.kept, fun v e he => ?_⟩
        by_cases hbefore : p.shared.registry.lookup v = some e
        · exact .inl hbefore
        · exact .inr ⟨i, visit, rfl, ⟨x, hx, (hgrows.own v e he).resolve_left hbefore⟩, hbefore, he⟩

end Situation

end StorageLifecycle.Runner
