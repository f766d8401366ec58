import StorageLifecycle.Proofs.Crew.Attendance
import StorageLifecycle.Proofs.Store.Atomicity

/-!
# All of a session or nothing

What a watching held when it ended is stored as a whole or not at all, and its report says which. This
rests on two things: the store takes a batch as a whole or not at all, and a session that is fed what
its observer asked for holds events or samples, never both, so that it saves one batch only.
-/

namespace StorageLifecycle

variable {σ ε κ : Type}

namespace StoreView

/-- A store has gained these events and samples over all of these strides. What others write between
two strides does not count. -/
inductive Gains (v : StoreView σ ε κ) : List (Stride σ) → Multiset ε → Multiset κ → Prop
  | nil : Gains v [] 0 0
  | cons {p : Stride σ} {rest : List (Stride σ)} {E E' : Multiset ε} {S S' : Multiset κ} :
      v.Gained p.before.store p.after.store E S → Gains v rest E' S' →
      Gains v (p :: rest) (E + E') (S + S')

variable {v : StoreView σ ε κ}

theorem Gained.gains {w w' : Shared σ} {E : Multiset ε} {S : Multiset κ}
    (h : v.Gained w.store w'.store E S) : v.Gains [⟨w, w'⟩] E S := by
  have hone := Gains.cons (p := ⟨w, w'⟩) h .nil
  rwa [add_zero, add_zero] at hone

theorem Gained.cons_gains {p : Stride σ} {rest : List (Stride σ)} {E : Multiset ε} {S : Multiset κ}
    (h : v.Gained p.before.store p.after.store 0 0) (h' : v.Gains rest E S) :
    v.Gains (p :: rest) E S := by
  have hboth := Gains.cons h h'
  rwa [zero_add, zero_add] at hboth

theorem Gains.append {ps qs : List (Stride σ)} {E E' : Multiset ε} {S S' : Multiset κ}
    (h : v.Gains ps E S) (h' : v.Gains qs E' S') : v.Gains (ps ++ qs) (E + E') (S + S') := by
  induction h with
  | nil =>
      rw [zero_add, zero_add]
      exact h'
  | cons hone _ ih =>
      rw [add_assoc, add_assoc]
      exact .cons hone ih

/-- How the report of a watching squares with what the store gained and with what fired. `x` is the
watching before its last turn, at which it finds `w`; a session that is asked to stop is settled before
it is stored. -/
def Squares (v : StoreView σ ε κ) (x : Watching) (w : Shared σ) (gained : Multiset ε)
    (sampled : Multiset κ) (r : SessionReport) : Prop :=
  match r.ending with
  | .shutdown => ∃ s, x.phase = .live s ∧
      let settled := (s.settle w (s.lastTries w)).1
      gained = v.batch settled.batch ∧ sampled = v.series settled.counts ∧
      r.eventsPersisted = settled.batch.length ∧ r.countsPersisted = settled.counts.length ∧
      s.fired.length = r.eventsPersisted + settled.waiting.length
  | .watchExpired dropped => ∃ s, x.phase = .live s ∧
      gained = 0 ∧ sampled = 0 ∧ dropped = s.held ∧
      r.eventsPersisted = 0 ∧ r.countsPersisted = 0 ∧
      s.fired.length = r.eventsPersisted + s.buffer.length + s.waiting.length
  | .flushFailed _ => ∃ s, x.phase = .live s ∧
      let settled := (s.settle w (s.lastTries w)).1
      gained = 0 ∧ sampled = 0 ∧ r.eventsPersisted = 0 ∧ r.countsPersisted = 0 ∧
      s.fired.length = r.eventsPersisted + settled.buffer.length + settled.waiting.length
  | .watchFailed _ => x.phase = .opening ∧
      gained = 0 ∧ sampled = 0 ∧ r.eventsPersisted = 0 ∧ r.countsPersisted = 0 ∧
      r.handled = 0 ∧ r.ignored = 0 ∧ r.unresolved = 0

variable {x : Watching} {t : Tokens} {w : Shared σ} {visit : Visit} {r : SessionReport}

/-- Only a watching that waits for its feed reports that it could not be opened. -/
theorem Squares.opening {gained : Multiset ε} {sampled : Multiset κ}
    (h : v.Squares x w gained sampled r) {reason : String} (hr : r.ending = .watchFailed reason) :
    x.phase = .opening := by
  unfold Squares at h
  rw [hr] at h
  exact h.1

/-! ## One turn -/

variable [EventStore σ]

/-- A watching that has not ended has written neither events nor samples. -/
theorem Atomic.attend (hv : v.Atomic) (h : (x.attend t w visit).1.report? = none) :
    v.Gained w.store (x.attend t w visit).2.store 0 0 := by
  cases Watching.attend_attended x t w visit with
  | idle _ hw | opened _ _ hw =>
      rw [hw]
      exact Gained.refl v w.store
  | took _ _ _ hw =>
      rw [hw]
      exact hv.take _ w _
  | failed _ hx _ | left _ _ hx _ =>
      rw [hx] at h
      exact nomatch h

/-- What a session writes when it leaves its feed. -/
theorem Atomic.finish (hv : v.Atomic) {s : Session} (hphase : x.phase = .live s)
    (hp : s.Proper x.kind x.testCase) (hu : s.Unmixed x.kind) (exit : Exit) (w : Shared σ) :
    ∃ gained sampled, v.Gained w.store (s.finish exit w).2.2.store gained sampled ∧
      v.Squares x w gained sampled (s.finish exit w).1 := by
  cases exit with
  | closed =>
      refine ⟨0, 0, Gained.refl v w.store, s, hphase, rfl, rfl, rfl, rfl, rfl, ?_⟩
      show s.fired.length = 0 + _ + _
      rw [Nat.zero_add]
      exact hp.kept.fired_length
  | stop =>
      have hone := (hu.settle (w := w) hp (s.lastTries w)).one (hp.settle w _)
      have hwhole := hv.save hone
      have hfired := hp.fired_settle w (s.lastTries w)
      obtain ⟨_, _, ⟨hsave, hreport⟩ | ⟨e, hsave, hreport⟩⟩ := Session.finish_stop_cases s w
      · rw [hreport]
        refine ⟨_, _, hwhole.ok hsave, s, hphase, rfl, rfl, ?_, rfl, hfired⟩
        exact (List.length_map _).symm
      · rw [hreport]
        refine ⟨0, 0, hwhole.error hsave, s, hphase, rfl, rfl, rfl, rfl, ?_⟩
        show s.fired.length = 0 + _ + _
        rw [Nat.zero_add]
        exact hfired

/-- What a watching writes at the turn at which it ends. -/
theorem Atomic.squares (hv : v.Atomic) (hx : x.Sane) (hopen : x.report? = none)
    (hend : (x.attend t w visit).1.report? = some r) :
    ∃ gained sampled, v.Gained w.store (x.attend t w visit).2.store gained sampled ∧
      v.Squares x w gained sampled r := by
  cases Watching.attend_attended x t w visit with
  | idle heq _ =>
      rw [heq, hopen] at hend
      exact nomatch hend
  | opened _ heq _ | took _ _ heq _ =>
      rw [heq] at hend
      exact nomatch hend
  | failed hphase heq hw =>
      rw [heq] at hend
      cases hend
      rw [hw]
      exact ⟨0, 0, Gained.refl v w.store, hphase, rfl, rfl, rfl, rfl, rfl, rfl, rfl⟩
  | left exit hphase heq hw =>
      rw [heq] at hend
      cases hend
      rw [hw]
      exact hv.finish hphase (hx.proper _ hphase) (hx.unmixed _ hphase) exit w

/-! ## A whole life -/

/-- While a watching has not ended it has written neither events nor samples. -/
theorem Atomic.attendAll (hv : v.Atomic) {ms : List (Meeting σ)}
    (h : (x.attendAll ms).report? = none) : v.Gains (x.strides ms) 0 0 := by
  induction ms generalizing x with
  | nil => exact .nil
  | cons m rest ih =>
      have hfirst : (x.attend m.tokens m.shared m.visit).1.report? = none :=
        Watching.report_of_attendAll h
      have hquiet := hv.attend hfirst
      exact hquiet.cons_gains (p := ⟨m.shared, _⟩) (ih h)

end StoreView

namespace Watching

end Watching

end StorageLifecycle
