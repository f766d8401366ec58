import Mathlib.Data.List.Basic
import StorageLifecycle.Proofs.Session.Runs

/-!
# Stamps

A stamp is never before an earlier one, also when the clock goes back. So the firings of a session
are in the order of their moments. Each stamp is a moment at which something was observed.
-/

namespace StorageLifecycle.Session

variable {σ : Type} {s : Session}

theorem last_le_stampOf {last : Instant} (hlast : s.last = some last) (moment : Instant) :
    last ≤ s.stampOf moment := by
  unfold stampOf
  rw [hlast]
  by_cases h : moment < last
  · simp only [if_pos h]
    exact Int.le_refl _
  · simp only [if_neg h]
    exact Int.not_lt.mp h

theorem le_stampOf (moment : Instant) : moment ≤ s.stampOf moment := by
  unfold stampOf
  split
  · rename_i last _
    by_cases h : moment < last
    · simp only [if_pos h]
      exact Int.le_of_lt h
    · simp only [if_neg h]
      exact Int.le_refl _
  · exact Int.le_refl _

/-- A stamp is the moment itself, or the latest stamp again. -/
theorem stampOf_cases (moment : Instant) :
    s.stampOf moment = moment ∨ s.last = some (s.stampOf moment) := by
  unfold stampOf
  split
  · rename_i last hlast
    by_cases h : moment < last
    · simp only [if_pos h]
      exact .inr hlast
    · exact .inl (if_neg h)
  · exact .inl rfl

/-- A moment that is not before the latest stamp is stamped as it is. -/
theorem stampOf_eq_self {moment : Instant} (h : ∀ last, s.last = some last → last ≤ moment) :
    s.stampOf moment = moment := by
  unfold stampOf
  split
  · rename_i last hlast
    exact if_neg (Int.not_lt.mpr (h last hlast))
  · rfl

/-- The firings are in the order of their moments, none after the latest stamp. -/
structure Clamped (s : Session) : Prop where
  ordered : s.fired.Pairwise fun f g => f.moment ≤ g.moment
  le_last : ∀ f ∈ s.fired, ∃ last, s.last = some last ∧ f.moment ≤ last

theorem Clamped.congr {t : Session} (h : s.Clamped) (hguard : t.guard = s.guard) : t.Clamped := by
  have hfired : t.fired = s.fired := congrArg Guard.fired hguard
  have hlast : t.last = s.last := congrArg Guard.last hguard
  refine ⟨hfired ▸ h.ordered, ?_⟩
  rw [hfired, hlast]
  exact h.le_last

theorem moment_of_mem_freshEvents {name name' : String} {observedAt : Instant}
    {types : List EventType} {f : Firing}
    (h : f ∈ firingsOf name' (s.freshEvents name observedAt types)) :
    f.moment = s.stampOf observedAt := by
  obtain ⟨e, he, rfl⟩ := List.mem_map.mp h
  obtain ⟨t, _, rfl⟩ := List.mem_map.mp he
  rfl

theorem Clamped.fire (h : s.Clamped) (name : String) (observedAt : Instant)
    (types : List EventType) : (s.fire name observedAt types).Clamped := by
  have hbefore : ∀ f ∈ s.fired, f.moment ≤ s.stampOf observedAt := by
    intro f hf
    obtain ⟨last, hlast, hle⟩ := h.le_last f hf
    exact Int.le_trans hle (last_le_stampOf hlast observedAt)
  rw [fire_eq]
  refine ⟨List.pairwise_append.mpr ⟨h.ordered, ?_, ?_⟩, ?_⟩
  -- All that fires at one notification has the same stamp.
  · refine List.pairwise_of_forall_mem_list fun f hf g hg => ?_
    rw [moment_of_mem_freshEvents hf, moment_of_mem_freshEvents hg]
    exact Int.le_refl _
  · intro f hf g hg
    rw [moment_of_mem_freshEvents hg]
    exact hbefore f hf
  · intro f hf
    refine ⟨s.stampOf observedAt, rfl, ?_⟩
    rcases List.mem_append.mp hf with hf | hf
    · exact hbefore f hf
    · rw [moment_of_mem_freshEvents hf]
      exact Int.le_refl _

theorem steady_clamped : Steady (fun _ => True) (fun _ => True) Clamped :=
  steady_of_guard (fun hguard h => h.congr hguard) fun h _ => h.fire _ _ _

theorem clamped_start (kind : ObserverKind) (testCase : TestCaseId) :
    (start kind testCase).Clamped :=
  ⟨List.Pairwise.nil, fun _ h => nomatch h⟩

theorem clamped_runAmid [EventStore σ] (kind : ObserverKind) (testCase : TestCaseId)
    (turns : List (Turn σ)) : ((start kind testCase).runAmid turns).Clamped :=
  steady_clamped.runAmid (fun _ _ => ⟨trivial, trivial, trivial⟩) (clamped_start kind testCase)

/-! ## Stamps are observed moments -/

/-- All stamps are of a kind of which the observed moments are. -/
structure Dated (dated : Instant → Prop) (s : Session) : Prop where
  fired : ∀ f ∈ s.fired, dated f.moment
  last : ∀ t, s.last = some t → dated t

variable {dated : Instant → Prop}

theorem dated_start (dated : Instant → Prop) (kind : ObserverKind) (testCase : TestCaseId) :
    (start kind testCase).Dated dated :=
  ⟨(fun _ h => nomatch h), fun _ h => nomatch h⟩

theorem Dated.stampOf (h : s.Dated dated) {moment : Instant} (hmoment : dated moment) :
    dated (s.stampOf moment) := by
  unfold Session.stampOf
  split
  · rename_i last hlast
    split
    · exact h.last last hlast
    · exact hmoment
  · exact hmoment

theorem Dated.congr {t : Session} (h : s.Dated dated) (hguard : t.guard = s.guard) : t.Dated dated := by
  have hfired : t.fired = s.fired := congrArg Guard.fired hguard
  have hlast : t.last = s.last := congrArg Guard.last hguard
  exact ⟨hfired ▸ h.fired, hlast ▸ h.last⟩

theorem Dated.fire (h : s.Dated dated) (name : String) {observedAt : Instant}
    (hmoment : dated observedAt) (types : List EventType) :
    (s.fire name observedAt types).Dated dated := by
  rw [fire_eq]
  refine ⟨List.forall_mem_append.mpr ⟨h.fired, fun f hf => ?_⟩, ?_⟩
  · rw [moment_of_mem_freshEvents hf]
    exact h.stampOf hmoment
  · rintro t ⟨⟩
    exact h.stampOf hmoment

theorem Dated.sample (h : s.Dated dated) {l : Listing} (hmoment : dated l.observedAt) :
    (s.sample l).Dated dated := by
  refine ⟨h.fired, ?_⟩
  rintro t ⟨⟩
  exact h.stampOf hmoment

theorem steady_dated (dated : Instant → Prop) :
    Steady (fun _ => True) (fun n => dated n.observedAt) (Dated dated) where
  bare hbare h := h.congr (guard_of_bare hbare)
  own {s n _ o _ _} h hn _ _ _ := (h.fire o.name hn (s.asks n _)).congr rfl
  retry _ _ _ h _ := h.congr (guard_tryResolve _ _)
  attach _ _ _ _ _ h _ hn _ _ := (h.fire _ hn _).congr (guard_fireAttachment _ _ _ _ _)

end StorageLifecycle.Session
