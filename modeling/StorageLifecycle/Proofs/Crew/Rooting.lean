import StorageLifecycle.Proofs.Crew.Runs
import StorageLifecycle.Proofs.Session.Rooting

/-!
# What the entities of a crew stand on

Whatever a crew does, and in whichever order, all that its sessions know and hold, and all that is in
their registry, stands on rows of the store that they share.
-/

namespace StorageLifecycle.Crew

variable {σ : Type} {v : RowView σ} {cases : TestCaseId → Prop} {c : Crew} {w : Shared σ}
  {admits : Session.Owner → Prop}

/-- All that the sessions of a crew know and hold stands on rows. -/
structure Rooted (v : RowView σ) (cases : TestCaseId → Prop) (c : Crew) (w : Shared σ) : Prop where
  sound : v.sound w.store
  testCase : ∀ x ∈ c.watchings, cases x.testCase
  rooted : ∀ x ∈ c.watchings, ∀ s, x.phase = .live s → s.Rooted v w.store x.kind x.testCase
  backs : v.Backs w.store w.registry

theorem rooted_of_new (hc : c.IsNew cases) (hsound : v.sound w.store)
    (hempty : w.registry = .empty) : c.Rooted v cases w where
  sound := hsound
  testCase x hx := (hc x hx).2
  rooted x hx s hs := nomatch (hc x hx).1.symm.trans hs
  backs := by
    rw [hempty]
    exact RowView.backs_empty

/-- What one watching does leaves the others where they are. -/
theorem Rooted.set (h : c.Rooted v cases w) {w' : Shared σ} {i : Nat} {x' : Watching}
    (hkeeps : v.Keeps w.store w'.store) (hbacks : v.Backs w'.store w'.registry)
    (hcase : cases x'.testCase)
    (hrooted : ∀ s, x'.phase = .live s → s.Rooted v w'.store x'.kind x'.testCase) :
    Rooted v cases { c with watchings := c.watchings.set i x' } w' where
  sound := hkeeps.sound
  testCase x hx := by
    rcases List.mem_or_eq_of_mem_set hx with hx | rfl
    · exact h.testCase x hx
    · exact hcase
  rooted x hx s hs := by
    rcases List.mem_or_eq_of_mem_set hx with hx | rfl
    · exact (h.rooted x hx s hs).mono hkeeps
    · exact hrooted s hs
  backs := hbacks

variable [EventStore σ]

theorem Rooted.attend (hv : v.Lawful cases admits) (h : c.Rooted v cases w) {i : Nat} {visit : Visit}
    (hadmits : ∀ o, visit.owner? = some o → admits o) :
    v.Keeps w.store (c.attend w i visit).2.store ∧
      (c.attend w i visit).1.Rooted v cases (c.attend w i visit).2 := by
  rcases attend_cases c w i visit with ⟨_, heq⟩ | ⟨x, hx, heq⟩
  · rw [heq]
    exact ⟨.refl h.sound, h⟩
  · rw [heq]
    have hmem := List.mem_of_getElem? hx
    have hcase := h.testCase x hmem
    cases Watching.attend_attended x c.tokens w visit with
    | idle hx' hw' =>
        rw [hx', hw']
        exact ⟨.refl h.sound, h.set (.refl h.sound) h.backs hcase (h.rooted x hmem)⟩
    | opened _ hx' hw' =>
        rw [hx', hw']
        refine ⟨.refl h.sound, h.set (.refl h.sound) h.backs hcase ?_⟩
        rintro s ⟨⟩
        exact Session.rooted_start v w.store x.kind x.testCase
    | failed _ hx' hw' =>
        rw [hx', hw']
        exact ⟨.refl h.sound, h.set (.refl h.sound) h.backs hcase fun s hs => nomatch hs⟩
    | @took s item hphase hvisit hx' hw' =>
        have hstands : Session.Stands v x.kind x.testCase w.store (s.take w item).1 (s.take w item).2 := by
          refine (h.rooted x hmem s hphase).take hv hcase h.sound h.backs ?_
          intro n snapshot o hitem hobject howner
          apply hadmits
          rw [hvisit, hitem]
          show n.object.bind Snapshot.owner? = some o
          rw [hobject]
          exact howner
        rw [hx', hw']
        refine ⟨hstands.keeps, h.set hstands.keeps hstands.backs hcase ?_⟩
        rintro s' ⟨⟩
        exact hstands.rooted
    | @left s exit hphase hx' hw' =>
        obtain ⟨hkeeps, hregistry⟩ :=
          (h.rooted x hmem s hphase).finish hv hcase h.sound h.backs exit
        rw [hx', hw']
        refine ⟨hkeeps, h.set hkeeps ?_ hcase fun s hs => nomatch hs⟩
        rw [hregistry]
        exact h.backs.mono hkeeps

theorem Rooted.happen (hv : v.Lawful cases admits) (h : c.Rooted v cases w) {a : Happening}
    (hadmits : ∀ o ∈ Happening.owners [a], admits o) :
    v.Keeps w.store (c.happen w a).2.store ∧ (c.happen w a).1.Rooted v cases (c.happen w a).2 := by
  cases a with
  | cancel k => exact ⟨.refl h.sound, h.sound, h.testCase, h.rooted, h.backs⟩
  | turn i visit =>
      apply h.attend hv
      intro o ho
      apply hadmits
      simp [Happening.owners, ho]

theorem Rooted.proceed (hv : v.Lawful cases admits) (h : c.Rooted v cases w) {as : List Happening}
    (hadmits : ∀ o ∈ Happening.owners as, admits o) :
    v.Keeps w.store (c.proceed w as).2.store ∧ (c.proceed w as).1.Rooted v cases (c.proceed w as).2 := by
  induction as generalizing c w with
  | nil => exact ⟨.refl h.sound, h⟩
  | cons a rest ih =>
      have hsplit : Happening.owners (a :: rest) =
          Happening.owners [a] ++ Happening.owners rest := by
        rw [Happening.owners, ← List.singleton_append, List.filterMap_append]
        rfl
      rw [hsplit] at hadmits
      obtain ⟨hkeeps, hone⟩ := h.happen hv fun o ho => hadmits o (List.mem_append_left _ ho)
      obtain ⟨hkeeps', hrest⟩ := ih hone fun o ho => hadmits o (List.mem_append_right _ ho)
      exact ⟨hkeeps.trans hkeeps', hrest⟩

end StorageLifecycle.Crew
