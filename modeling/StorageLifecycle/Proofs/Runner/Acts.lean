import StorageLifecycle.Proofs.Crew.Runs
import StorageLifecycle.Proofs.Session.Publishing
import StorageLifecycle.Runner

/-!
# What is done with a runner

A runner is started, asked to stop and waited for, in any order, and between these acts its sessions have
their turns. All that a runner has to keep is kept by each act: its observers stay what they were built
to be, it has sessions only while it runs, and each session goes by the tokens that its observer and the
runner hold, is of the test case at hand, and reports under the name of its observer.
-/

namespace StorageLifecycle

/-! ## A watching and its test case -/

namespace Watching

variable {σ : Type} [EventStore σ] {x : Watching}

/-- What a watching is engaged for: its kind, its test case, and the two tokens that stop it. -/
def post (x : Watching) : ObserverKind × TestCaseId × Token × Token :=
  (x.kind, x.testCase, x.own, x.parent)

theorem attend_post (x : Watching) (t : Tokens) (w : Shared σ) (visit : Visit) :
    (x.attend t w visit).1.post = x.post := by
  cases attend_attended x t w visit with
  | idle hx _ => rw [hx]
  | opened _ hx _ | failed _ hx _ | took _ _ hx _ | left _ _ hx _ =>
      rw [hx]
      rfl

/-- The session of the watching keeps to its test case, and the report is under its kind. -/
structure OfCase (x : Watching) : Prop where
  live : ∀ s, x.phase = .live s → s.OfCase x.kind x.testCase
  ended : ∀ r, x.phase = .ended r → r.observer = x.kind

theorem ofCase_of_opening (h : x.phase = .opening) : x.OfCase :=
  ⟨(fun _ hs => nomatch h.symm.trans hs), fun _ hr => nomatch h.symm.trans hr⟩

theorem phase_of_report? {report : SessionReport} (h : x.report? = some report) :
    x.phase = .ended report := by
  unfold report? at h
  split at h
  · cases h
    assumption
  · exact nomatch h

theorem isEnded_iff : x.isEnded = true ↔ ∃ report, x.report? = some report := by
  unfold isEnded report?
  cases x.phase <;> simp

/-- At its turn a watching publishes claims of its own test case only. -/
theorem OfCase.attend (h : x.OfCase) (t : Tokens) (w : Shared σ) (visit : Visit) :
    (x.attend t w visit).1.OfCase ∧ w.registry.Grows (x.attend t w visit).2.registry x.testCase := by
  cases attend_attended x t w visit with
  | idle hx hw =>
      rw [hx, hw]
      exact ⟨h, .refl _ _⟩
  | opened _ hx hw =>
      rw [hx, hw]
      refine ⟨⟨?_, fun r hr => nomatch hr⟩, .refl _ _⟩
      rintro s ⟨⟩
      exact Session.ofCase_start _ _
  | failed _ hx hw =>
      rw [hx, hw]
      refine ⟨⟨(fun s hs => nomatch hs), ?_⟩, .refl _ _⟩
      rintro r ⟨⟩
      rfl
  | @took s item hphase _ hx hw =>
      obtain ⟨hcase, hgrows⟩ := (h.live s hphase).take w item
      rw [hx, hw]
      refine ⟨⟨?_, fun r hr => nomatch hr⟩, hgrows⟩
      rintro s' ⟨⟩
      exact hcase
  | @left s exit hphase hx hw =>
      rw [hx, hw]
      refine ⟨⟨(fun s hs => nomatch hs), ?_⟩, ?_⟩
      · rintro r ⟨⟩
        exact (s.finish_observer exit w).trans (h.live s hphase).proper.kind
      · rw [Session.finish_registry]
        exact .refl _ _

/-- A watching that was asked to stop ends when its feed was asked for and it has had one more turn. -/
theorem isEnded_of_stopped {t : Tokens} (h : x.isStopped t = true) (w w' : Shared σ)
    (result : Except ObserverError Unit) (next : Option Session.Item) :
    ((x.attend t w (.answer result)).1.attend t w' (.feed next)).1.isEnded = true := by
  have hleave : ∀ y : Watching, y.phase ≠ .opening → y.isStopped t = true →
      (y.attend t w' (.feed next)).1.isEnded = true := by
    intro y hphase hstopped
    have hattend : y.attend t w' (.feed next) = y.leave w' .stop := if_pos hstopped
    rw [hattend]
    unfold leave isEnded
    cases hy : y.phase with
    | opening => exact absurd hy hphase
    | live s => rfl
    | ended r => simp only [hy]
  have hpost := attend_post x t w (.answer result)
  refine hleave _ ?_ ?_
  · unfold attend opened
    cases hx : x.phase with
    | opening => cases result <;> exact nofun
    | live s | ended r =>
        simp only [hx]
        exact nofun
  · unfold isStopped
    rw [show (x.attend t w (.answer result)).1.own = x.own from congrArg (·.2.2.1) hpost,
      show (x.attend t w (.answer result)).1.parent = x.parent from congrArg (·.2.2.2) hpost]
    exact h

end Watching

namespace Runner

/-! ## Building and starting -/

theorem mem_distinct {kinds : List ObserverKind} {k : ObserverKind} : k ∈ distinct kinds ↔ k ∈ kinds := by
  have hfold : ∀ acc : List ObserverKind,
      k ∈ kinds.foldl (fun acc k => if acc.contains k then acc else acc ++ [k]) acc ↔
        k ∈ acc ∨ k ∈ kinds := by
    induction kinds with
    | nil => simp
    | cons j rest ih =>
        intro acc
        rw [List.foldl_cons, ih, List.mem_cons]
        by_cases hj : j ∈ acc
        · rw [if_pos (List.contains_iff_mem.mpr hj)]
          have hk : k = j → k ∈ acc := fun heq => heq ▸ hj
          tauto
        · rw [if_neg (mt List.contains_iff_mem.mp hj), List.mem_append, List.mem_singleton]
          tauto
  exact (hfold []).trans (by simp)

theorem nodup_distinct (kinds : List ObserverKind) : (distinct kinds).Nodup := by
  have hfold : ∀ acc : List ObserverKind, acc.Nodup →
      (kinds.foldl (fun acc k => if acc.contains k then acc else acc ++ [k]) acc).Nodup := by
    induction kinds with
    | nil => exact fun acc h => h
    | cons j rest ih =>
        intro acc hacc
        rw [List.foldl_cons]
        refine ih _ ?_
        split
        · exact hacc
        · rename_i hj
          refine List.nodup_append.mpr ⟨hacc, List.nodup_singleton j, ?_⟩
          rintro k hk _ hj' rfl
          rw [List.mem_singleton] at hj'
          exact hj (List.contains_iff_mem.mpr (hj' ▸ hk))
  exact hfold [] List.nodup_nil

/-- Tokens that observers were given out of a supply. -/
structure Supplied (kinds : List ObserverKind) (before : Tokens) (os : List Observer)
    (after : Tokens) : Prop where
  kinds : os.map (·.kind) = kinds
  cancelled : after.cancelled = before.cancelled
  next : before.next ≤ after.next
  own : ∀ o ∈ os, before.next ≤ o.own ∧ o.own < after.next

theorem Supplied.nil (t : Tokens) : Supplied [] t [] t :=
  ⟨rfl, rfl, Nat.le_refl _, List.forall_mem_nil _⟩

theorem Supplied.cons {k : ObserverKind} {kinds : List ObserverKind} {t t' : Tokens}
    {os : List Observer} (h : Supplied kinds t.fresh.2 os t') :
    Supplied (k :: kinds) t (⟨k, t.fresh.1⟩ :: os) t' where
  kinds := congrArg (k :: ·) h.kinds
  cancelled := h.cancelled
  next := Nat.le_trans (Nat.le_succ _) h.next
  own := by
    refine List.forall_mem_cons.mpr ⟨⟨Nat.le_refl _, h.next⟩, fun o ho => ?_⟩
    exact ⟨Nat.le_trans (Nat.le_succ _) (h.own o ho).1, (h.own o ho).2⟩

theorem createAll_supplied (c : Crew) (kinds : List ObserverKind) :
    Supplied kinds c.tokens (createAll c kinds).1 (createAll c kinds).2.tokens ∧
      (createAll c kinds).2.watchings = c.watchings := by
  induction kinds generalizing c with
  | nil => exact ⟨.nil _, rfl⟩
  | cons k rest ih =>
      obtain ⟨hrest, hwatchings⟩ := ih (Observer.create k c).2
      exact ⟨hrest.cons, hwatchings⟩

/-- The watching of an observer at its start. -/
def engaged (id : TestCaseId) (parent : Token) (o : Observer) : Watching :=
  ⟨o.kind, id, o.own, parent, .opening⟩

theorem launchAll_supplied (id : TestCaseId) (parent : Token) (c : Crew) (os : List Observer) :
    Supplied (os.map (·.kind)) c.tokens (launchAll id parent c os).1
        (launchAll id parent c os).2.tokens ∧
      (launchAll id parent c os).2.watchings =
        c.watchings ++ (launchAll id parent c os).1.map (engaged id parent) := by
  induction os generalizing c with
  | nil => exact ⟨.nil _, (List.append_nil _).symm⟩
  | cons o rest ih =>
      obtain ⟨hrest, hwatchings⟩ := ih ((o.reset c).1.watch (o.reset c).2 id parent)
      refine ⟨hrest.cons, hwatchings.trans ?_⟩
      exact List.append_assoc _ [engaged id parent (o.reset c).1] _

/-! ## Stopping and waiting -/

/-- The tokens that stop the sessions of a runner. -/
def tokens (r : Runner) : List Token := r.parent :: r.observers.map (·.own)

/-- A stop cancels the tokens of the runner and does nothing else. -/
theorem stop_cancels (r : Runner) : ∃ crew, r.stop = { r with crew } ∧
    crew.watchings = r.crew.watchings ∧ crew.tokens.next = r.crew.tokens.next ∧
    ∀ k, k ∈ crew.tokens.cancelled ↔ k ∈ r.crew.tokens.cancelled ∨ k ∈ r.tokens := by
  have hfold : ∀ (os : List Observer) (c : Crew), os.foldl (fun c o => o.stop c) c =
      ⟨⟨c.tokens.next, (os.map (·.own)).reverse ++ c.tokens.cancelled⟩, c.watchings⟩ := by
    intro os
    induction os with
    | nil => exact fun c => rfl
    | cons o rest ih =>
        intro c
        rw [List.foldl_cons, ih, List.map_cons, List.reverse_cons, List.append_assoc]
        rfl
  refine ⟨_, rfl, ?_, ?_, fun k => ?_⟩ <;> rw [hfold]
  · rfl
  · rfl
  · show k ∈ r.parent :: _ ↔ _
    unfold tokens
    rw [List.mem_cons, List.mem_append, List.mem_reverse, List.mem_cons]
    tauto

variable {σ : Type}

/-- A wait returns when all sessions have ended. -/
theorem wait_returns (r : Runner) (w : Shared σ) :
    (∃ answer, r.wait w = some answer) ↔ ∀ x ∈ r.crew.watchings, x.isEnded = true := by
  have hreports : ∀ xs : List Watching, (∃ reports, xs.mapM (·.report?) = some reports) ↔
      ∀ x ∈ xs, x.isEnded = true := by
    intro xs
    induction xs with
    | nil => simp
    | cons x rest ih =>
        rw [List.forall_mem_cons, ← ih, Watching.isEnded_iff, List.mapM_cons]
        cases x.report? with
        | none => simp
        | some report => cases rest.mapM (·.report?) <;> simp
  rw [← hreports]
  unfold wait reports?
  cases r.crew.watchings.mapM (·.report?) <;> simp

/-- What a wait that returns reports, and what it leaves. -/
structure Waited (r : Runner) (w : Shared σ) (report : RunReport) (r' : Runner)
    (w' : Shared σ) : Prop where
  testCase : report.testCase = (r.current.map (·.id)).getD 0
  failedTasks : report.failedTasks = 0
  observers : report.sessions.map (·.observer) = r.crew.watchings.map (·.kind)
  left : r' = { r with
    state := if r.state = .running then .stopped else r.state
    crew := { r.crew with watchings := [] } }
  registry : w'.registry = w.registry

theorem waited_of_wait {r r' : Runner} {w w' : Shared σ} {report : RunReport}
    (h : r.wait w = some (report, r', w')) (hcase : ∀ x ∈ r.crew.watchings, x.OfCase) :
    r.Waited w report r' w' := by
  obtain ⟨reports, hreports, heq⟩ := Option.map_eq_some_iff.mp h
  cases heq
  refine ⟨rfl, rfl, ?_, rfl, rfl⟩
  unfold reports? at hreports
  clear h
  generalize r.crew.watchings = xs at hcase hreports ⊢
  show reports.map _ = _
  induction xs generalizing reports with
  | nil =>
      cases hreports
      rfl
  | cons x rest ih =>
      obtain ⟨hx, hrest⟩ := List.forall_mem_cons.mp hcase
      rw [List.mapM_cons] at hreports
      obtain ⟨first, hfirst, hreports⟩ := Option.bind_eq_some_iff.mp hreports
      obtain ⟨others, hothers, hreports⟩ := Option.bind_eq_some_iff.mp hreports
      cases hreports
      rw [List.map_cons, List.map_cons, hx.ended first (Watching.phase_of_report? hfirst),
        ih others hrest hothers]

end Runner

end StorageLifecycle
