import StorageLifecycle.Proofs.Session.Parking

/-!
# What every session keeps

Whatever becomes of the store and the registry, a session keeps its own books: its events and its
samples are of its own test case, nothing that fired gets lost, and stamps do not go back. A session
that is fed what its observer asked for holds events or samples, never both.
-/

namespace StorageLifecycle.Session

variable {σ : Type} {s : Session} {w : Shared σ}

theorem Clamped.sample (h : s.Clamped) (l : Listing) : (s.sample l).Clamped := by
  refine ⟨h.ordered, fun f hf => ?_⟩
  obtain ⟨last, hlast, hle⟩ := h.le_last f hf
  exact ⟨s.stampOf l.observedAt, rfl, Int.le_trans hle (last_le_stampOf hlast _)⟩

theorem Kept.sample (h : s.Kept) (l : Listing) : (s.sample l).Kept :=
  ⟨h.lawful, h.own, h.split, h.nonempty⟩

/-- What a session keeps whatever it watches. -/
structure Proper (k : ObserverKind) (id : TestCaseId) (s : Session) : Prop where
  kind : s.kind = k
  testCase : s.testCase = id
  cases : ∀ r ∈ s.buffer, r.event.testCase = id
  sampled : ∀ c ∈ s.counts, c.testCase = id
  kept : s.Kept
  clamped : s.Clamped

variable {k : ObserverKind} {id : TestCaseId}

theorem proper_start (k : ObserverKind) (id : TestCaseId) : (start k id).Proper k id :=
  ⟨rfl, rfl, (fun _ h => nomatch h), (fun _ h => nomatch h), kept_start k id, clamped_start k id⟩

theorem Proper.plain (h : s.Proper k id) : s.Plain id s.counts := ⟨h.testCase, h.cases, rfl⟩

theorem Proper.plain_handle [EventStore σ] (h : s.Proper k id) (w : Shared σ) (n : Notification) :
    (s.handle w n).1.Plain id s.counts :=
  (steady_plain id s.counts).handleAmid trivial trivial trivial h.plain

theorem Proper.take [EventStore σ] (h : s.Proper k id) (w : Shared σ) (item : Item) :
    (s.take w item).1.Proper k id := by
  cases item with
  | listing l =>
      refine ⟨h.kind, h.testCase, h.cases, ?_, h.kept.sample l, h.clamped.sample l⟩
      intro c hc
      rcases List.mem_append.mp hc with hc | hc
      · exact h.sampled c hc
      · rw [List.mem_singleton.mp hc]
        exact h.testCase
  | notification n =>
      have hplain := h.plain_handle w n
      exact ⟨(handleAmid_kind _ _).trans h.kind, hplain.testCase, hplain.cases,
        hplain.counts.symm ▸ h.sampled, steady_kept.handleAmid trivial trivial trivial h.kept,
        steady_clamped.handleAmid trivial trivial trivial h.clamped⟩

theorem Proper.countHandled (h : s.Proper k id) : s.countHandled.Proper k id :=
  ⟨h.kind, h.testCase, h.cases, h.sampled, steady_kept.bare (s := s) rfl h.kept,
    steady_clamped.bare (s := s) rfl h.clamped⟩

theorem Proper.tryResolve (h : s.Proper k id) (w : Shared σ) (registry : Registry) (name : String) :
    (s.tryResolve w registry name).1.Proper k id := by
  have hplain : (s.tryResolve w registry name).1.Plain id s.counts :=
    (steady_plain id s.counts).retry w name h.plain trivial
  have hkind : (s.tryResolve w registry name).1.kind = s.kind :=
    congrArg Guard.kind (guard_tryResolve registry name)
  exact ⟨hkind.trans h.kind, hplain.testCase, hplain.cases, hplain.counts.symm ▸ h.sampled,
    steady_kept.retry w name h.kept trivial, steady_clamped.retry w name h.clamped trivial⟩

theorem Proper.settle (h : s.Proper k id) (w : Shared σ) (tries : List (String × Registry)) :
    (s.settle w tries).1.Proper k id := by
  obtain ⟨hkept, hguard, _, _, hcounts⟩ := settle_spec (w := w) h.kept h.clamped tries
  have hresolved : (s.resolveAll w tries).1.Plain id s.counts :=
    (steady_plain id s.counts).resolveAll h.plain fun _ _ => trivial
  refine ⟨(congrArg Guard.kind hguard).trans h.kind, hresolved.testCase, ?_, hcounts ▸ h.sampled, hkept,
    h.clamped.congr hguard⟩
  exact fun r hr => hresolved.cases r ((inOrder_perm _).mem_iff.mp hr)

theorem Proper.batch (h : s.Proper k id) : ∀ e ∈ s.batch, e.testCase = id := by
  intro e he
  obtain ⟨r, hr, rfl⟩ := List.mem_map.mp he
  exact h.cases r hr

/-- Every firing left an event in the buffer or a parked one. -/
theorem Kept.fired_length (h : s.Kept) : s.fired.length = s.buffer.length + s.waiting.length := by
  rw [h.fired_perm.length_eq, List.length_append, recorded, List.length_map]

/-- Settling moves events from the parked ones to the buffer and loses none. -/
theorem Proper.fired_settle (h : s.Proper k id) (w : Shared σ) (tries : List (String × Registry)) :
    s.fired.length = (s.settle w tries).1.buffer.length + (s.settle w tries).1.waiting.length := by
  obtain ⟨_, hguard, _, _, _⟩ := settle_spec (w := w) h.kept h.clamped tries
  have hfired : (s.settle w tries).1.fired = s.fired := congrArg Guard.fired hguard
  rw [← hfired]
  exact (h.settle w tries).kept.fired_length

/-! ## Events or samples -/

/-- Is this what an observer of the kind asks for? -/
def Item.fits (k : ObserverKind) : Item → Prop
  | .notification _ => k ≠ .count
  | .listing _ => k = .count

instance (k : ObserverKind) (item : Item) : Decidable (item.fits k) := by
  cases item <;> unfold Item.fits <;> infer_instance

/-- A session takes samples if it counts, and fires if it does not. -/
structure Unmixed (k : ObserverKind) (s : Session) : Prop where
  uncounted : k ≠ .count → s.counts = []
  silent : k = .count → s.fired = []

theorem unmixed_start (k : ObserverKind) (id : TestCaseId) : (start k id).Unmixed k :=
  ⟨fun _ => rfl, fun _ => rfl⟩

theorem Unmixed.take [EventStore σ] (h : s.Unmixed k) (hp : s.Proper k id) {item : Item}
    (hfits : item.fits k) : (s.take w item).1.Unmixed k := by
  cases item with
  | listing l => exact ⟨fun hk => absurd hfits hk, h.silent⟩
  | notification n =>
      refine ⟨fun hk => ?_, fun hk => absurd hk hfits⟩
      exact (hp.plain_handle w n).counts.trans (h.uncounted hk)

theorem Unmixed.settle (h : s.Unmixed k) (hp : s.Proper k id) (tries : List (String × Registry)) :
    (s.settle w tries).1.Unmixed k := by
  obtain ⟨_, hguard, _, _, hcounts⟩ := settle_spec (w := w) hp.kept hp.clamped tries
  refine ⟨fun hk => hcounts.trans (h.uncounted hk), fun hk => ?_⟩
  exact (congrArg Guard.fired hguard).trans (h.silent hk)

/-- What has not fired is not in the buffer. -/
theorem Kept.buffer_eq_nil (h : s.Kept) (hfired : s.fired = []) : s.buffer = [] := by
  have hlength := h.fired_length
  rw [hfired, List.length_nil] at hlength
  exact List.eq_nil_of_length_eq_zero (by omega)

theorem Unmixed.one (h : s.Unmixed k) (hp : s.Proper k id) : s.batch = [] ∨ s.counts = [] := by
  by_cases hk : k = .count
  · left
    rw [batch, hp.kept.buffer_eq_nil (h.silent hk)]
    rfl
  · exact Or.inr (h.uncounted hk)

end StorageLifecycle.Session
