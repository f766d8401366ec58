import StorageLifecycle.Proofs.Session.Dealing
import StorageLifecycle.Proofs.Session.Proper
import StorageLifecycle.Session.Crew

/-!
# The turns of a watching

A watching has one turn after another. At each of them the source answers that the feed was opened or
could not be, or the feed has an item, or it has closed; and a watching that was asked to stop ends
whatever its feed has. Between two turns the others may do anything to the store and the registry, and
tokens may be cancelled.
-/

namespace StorageLifecycle

/-- What comes to a watching at its turn. -/
inductive Visit where
  /-- The feed was opened, or it could not be. -/
  | answer (result : Except ObserverError Unit)
  /-- The feed has an item, or it has closed. -/
  | feed (next : Option Session.Item)

/-- Is this what comes to an observer of the kind? -/
def Visit.fits (k : ObserverKind) : Visit → Prop
  | .feed (some item) => item.fits k
  | _ => True

instance (k : ObserverKind) (visit : Visit) : Decidable (visit.fits k) := by
  unfold Visit.fits
  split <;> infer_instance

/-- A turn of a watching amid the work of others: the tokens that are cancelled and what is shared
when it comes. -/
structure Meeting (σ : Type) where
  tokens : Tokens
  shared : Shared σ
  visit : Visit

/-- What is shared before and after a turn. -/
structure Stride (σ : Type) where
  before : Shared σ
  after : Shared σ

namespace Watching

variable {σ : Type} [EventStore σ]

/-- A watching has its turn. It looks at its tokens before it looks at its feed. -/
def attend (x : Watching) (t : Tokens) (w : Shared σ) : Visit → Watching × Shared σ
  | .answer result => x.opened w result
  | .feed next =>
    if x.isStopped t then x.leave w .stop
    else
      match next with
      | some item => x.take w item
      | none => x.leave w .closed

/-- The watching after these turns. -/
def attendAll (x : Watching) : List (Meeting σ) → Watching
  | [] => x
  | m :: rest => (x.attend m.tokens m.shared m.visit).1.attendAll rest

/-- What is shared before and after each of these turns. -/
def strides (x : Watching) : List (Meeting σ) → List (Stride σ)
  | [] => []
  | m :: rest =>
    ⟨m.shared, (x.attend m.tokens m.shared m.visit).2⟩ ::
      (x.attend m.tokens m.shared m.visit).1.strides rest

variable {x : Watching} {t : Tokens} {w : Shared σ}

/-- What a turn does to a watching and to what it shares. -/
inductive Attended (x : Watching) (w : Shared σ) (visit : Visit) (x' : Watching) (w' : Shared σ) :
    Prop
  /-- The watching does not wait for this. -/
  | idle (watching : x' = x) (shared : w' = w)
  | opened (phase : x.phase = .opening)
      (watching : x' = { x with phase := .live (.start x.kind x.testCase) }) (shared : w' = w)
  | failed {e : ObserverError} {signals : List Signal} (phase : x.phase = .opening)
      (watching : x' = { x with phase := .ended (.failedToOpen x.kind e.message) })
      (shared : w' = w.tell signals)
  | took {s : Session} {item : Session.Item} (phase : x.phase = .live s)
      (visit : visit = .feed (some item))
      (watching : x' = { x with phase := .live (s.take w item).1 })
      (shared : w' = (s.take w item).2)
  | left {s : Session} (exit : Exit) (phase : x.phase = .live s)
      (watching : x' = { x with phase := .ended (s.finish exit w).1 })
      (shared : w' = (s.finish exit w).2.2)

theorem opened_attended (x : Watching) (w : Shared σ) (result : Except ObserverError Unit) :
    x.Attended w (.answer result) (x.opened w result).1 (x.opened w result).2 := by
  unfold opened
  split
  · rename_i hphase
    cases result with
    | ok u => exact .opened hphase rfl rfl
    | error e => exact .failed hphase rfl rfl
  · exact .idle rfl rfl

theorem take_attended (x : Watching) (w : Shared σ) (item : Session.Item) :
    x.Attended w (.feed (some item)) (x.take w item).1 (x.take w item).2 := by
  unfold take
  split
  · rename_i s hphase
    exact .took hphase rfl rfl rfl
  · exact .idle rfl rfl

theorem leave_attended (x : Watching) (w : Shared σ) (visit : Visit) (exit : Exit) :
    x.Attended w visit (x.leave w exit).1 (x.leave w exit).2 := by
  unfold leave
  split
  · rename_i s hphase
    exact .left exit hphase rfl rfl
  · exact .idle rfl rfl

theorem attend_attended (x : Watching) (t : Tokens) (w : Shared σ) (visit : Visit) :
    x.Attended w visit (x.attend t w visit).1 (x.attend t w visit).2 := by
  cases visit with
  | answer result => exact opened_attended x w result
  | feed next =>
      unfold attend
      by_cases hstopped : x.isStopped t = true
      · simp only [hstopped, if_true]
        exact leave_attended x w _ .stop
      · simp only [hstopped]
        cases next with
        | none => exact leave_attended x w _ .closed
        | some item => exact take_attended x w item

theorem attend_static (x : Watching) (t : Tokens) (w : Shared σ) (visit : Visit) :
    (x.attend t w visit).1.kind = x.kind ∧ (x.attend t w visit).1.testCase = x.testCase := by
  cases attend_attended x t w visit with
  | idle hx _ | opened _ hx _ | failed _ hx _ | took _ _ hx _ | left _ _ hx _ =>
      rw [hx]
      exact ⟨rfl, rfl⟩

theorem report?_eq_some_iff {r : SessionReport} : x.report? = some r ↔ x.phase = .ended r := by
  unfold report?
  cases x.phase with
  | ended r' => simp
  | opening | live s => simp

/-- A report is final. -/
theorem attend_of_ended {r : SessionReport} (h : x.phase = .ended r) (t : Tokens) (w : Shared σ)
    (visit : Visit) : (x.attend t w visit).1 = x ∧ (x.attend t w visit).2 = w := by
  cases attend_attended x t w visit with
  | idle hx hw => exact ⟨hx, hw⟩
  | opened hphase _ _ | failed hphase _ _ | took hphase _ _ _ | left _ hphase _ _ =>
      exact nomatch h.symm.trans hphase

theorem attendAll_of_ended {r : SessionReport} (h : x.phase = .ended r) (ms : List (Meeting σ)) :
    x.attendAll ms = x := by
  induction ms generalizing x with
  | nil => rfl
  | cons m rest ih =>
      have hsame := (attend_of_ended h m.tokens m.shared m.visit).1
      show (x.attend m.tokens m.shared m.visit).1.attendAll rest = x
      rw [hsame]
      exact ih h

/-- A watching that has not ended after these turns had not ended before them. -/
theorem report_of_attendAll {ms : List (Meeting σ)} (h : (x.attendAll ms).report? = none) :
    x.report? = none := by
  cases hreport : x.report? with
  | none => rfl
  | some r =>
      rw [attendAll_of_ended (report?_eq_some_iff.mp hreport)] at h
      exact nomatch hreport.symm.trans h

/-! ## What a watching keeps -/

/-- The books of a watching are those of its session. -/
structure Sane (x : Watching) : Prop where
  proper : ∀ s, x.phase = .live s → s.Proper x.kind x.testCase
  unmixed : ∀ s, x.phase = .live s → s.Unmixed x.kind

/-- A watching that waits for its feed, or has ended, has no books to keep. -/
theorem sane_of_not_live (h : ∀ s, x.phase ≠ .live s) : x.Sane :=
  ⟨fun s hs => absurd hs (h s), fun s hs => absurd hs (h s)⟩

theorem sane_of_live {s : Session} (h : x.phase = .live s) (hp : s.Proper x.kind x.testCase)
    (hu : s.Unmixed x.kind) : x.Sane := by
  constructor
  · intro s' hs'
    cases h.symm.trans hs'
    exact hp
  · intro s' hs'
    cases h.symm.trans hs'
    exact hu

theorem Sane.attend (h : x.Sane) (t : Tokens) (w : Shared σ) {visit : Visit}
    (hfits : visit.fits x.kind) : (x.attend t w visit).1.Sane := by
  cases attend_attended x t w visit with
  | idle hx _ =>
      rw [hx]
      exact h
  | opened _ hx _ =>
      rw [hx]
      exact sane_of_live rfl (Session.proper_start _ _) (Session.unmixed_start _ x.testCase)
  | failed _ hx _ | left _ _ hx _ =>
      rw [hx]
      exact sane_of_not_live fun s hs => nomatch hs
  | took hphase hvisit hx _ =>
      rw [hx]
      subst hvisit
      have hproper := h.proper _ hphase
      exact sane_of_live rfl (hproper.take w _) ((h.unmixed _ hphase).take hproper hfits)

theorem Sane.attendAll (h : x.Sane) {ms : List (Meeting σ)}
    (hfits : ∀ m ∈ ms, m.visit.fits x.kind) : (x.attendAll ms).Sane := by
  induction ms generalizing x with
  | nil => exact h
  | cons m rest ih =>
      apply ih (h.attend m.tokens m.shared (hfits m List.mem_cons_self))
      intro m' hm'
      rw [(attend_static x m.tokens m.shared m.visit).1]
      exact hfits m' (List.mem_cons_of_mem _ hm')

/-- A watching reports under its own kind. -/
theorem observer_of_attend (h : x.Sane) {visit : Visit} (hopen : x.report? = none)
    {r : SessionReport} (hend : (x.attend t w visit).1.report? = some r) : r.observer = x.kind := by
  cases attend_attended x t w visit with
  | idle hx _ =>
      rw [hx, hopen] at hend
      exact nomatch hend
  | opened _ hx _ | took _ _ hx _ =>
      rw [hx] at hend
      exact nomatch hend
  | failed _ hx _ =>
      rw [hx] at hend
      cases hend
      rfl
  | @left s exit hphase hx _ =>
      rw [hx] at hend
      cases hend
      rw [← (h.proper s hphase).kind]
      cases exit with
      | closed => rfl
      | stop =>
          obtain ⟨_, _, ⟨_, hreport⟩ | ⟨_, _, hreport⟩⟩ := Session.finish_stop_cases s w
          · rw [hreport]
            rfl
          · rw [hreport]
            rfl

end Watching

/-! ## What every save keeps -/

/-- A property of stores that no save takes away. -/
structure Lasting {σ : Type} [EventStore σ] (P : σ → Prop) : Prop where
  saveEntities : ∀ {batch : List Entity} {s s' : σ} {answer : Except StoreError (List EntityId)},
    P s → (EventStore.saveEntities batch).perform s = (answer, s') → P s'
  saveEvents : ∀ {batch : List Event} {s s' : σ} {answer : Except StoreError Unit},
    P s → (EventStore.saveEvents batch).perform s = (answer, s') → P s'
  saveCounts : ∀ {batch : List CountSample} {s s' : σ} {answer : Except StoreError Unit},
    P s → (EventStore.saveCounts batch).perform s = (answer, s') → P s'

/-- Whatever a watching does at its turn, it does to the store by saves. -/
theorem Lasting.attend {σ : Type} [EventStore σ] {P : σ → Prop} (hP : Lasting P) (x : Watching)
    (t : Tokens) {w : Shared σ} (visit : Visit) (h : P w.store) :
    P (x.attend t w visit).2.store := by
  cases Watching.attend_attended x t w visit with
  | idle _ hw | opened _ _ hw | failed _ _ hw =>
      rw [hw]
      exact h
  | @took s item _ _ _ hw =>
      rw [hw]
      cases item with
      | listing l => exact h
      | notification n =>
          rcases Session.handleAmid_store s w w.registry n with hstore | ⟨_, _, _, _, _, hsave⟩
          · exact hstore ▸ h
          · exact hP.saveEntities h hsave
  | @left s exit _ _ hw =>
      rw [hw]
      cases exit with
      | closed => exact h
      | stop =>
          obtain ⟨_, _, ⟨hsave, _⟩ | ⟨_, hsave, _⟩⟩ := Session.finish_stop_cases s w
          · exact Session.save_keeps hsave h (hP.saveEvents h) hP.saveCounts
          · exact Session.save_keeps hsave h (hP.saveEvents h) hP.saveCounts

end StorageLifecycle
