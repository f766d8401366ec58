import Mathlib.Data.List.Induction
import StorageLifecycle.Metrics.Timeline

/-!
# Peaks are greatest counts

The peaks over samples are, field by field, the greatest counts that one of the samples shows. Each is a
count of some sample, though not all six of the same one, and the order of the samples makes no
difference.
-/

namespace StorageLifecycle

namespace Tally

/-- The six counts by name. -/
def fields : List (Tally → Nat) :=
  [podsCreating, podsReady, podsTerminating, pvcCreating, pvcBound, pvcTerminating]

variable {a b : Tally} {f : Tally → Nat}

theorem eq_of_fields (h : ∀ f ∈ fields, f a = f b) : a = b := by
  simp only [fields, List.forall_mem_cons, List.not_mem_nil, false_implies, implies_true, and_true] at h
  obtain ⟨hpodsCreating, hready, hpodsTerminating, hpvcCreating, hbound, hpvcTerminating⟩ := h
  cases a
  cases b
  rw [mk.injEq]
  exact ⟨hpodsCreating, hready, hpodsTerminating, hpvcCreating, hbound, hpvcTerminating⟩

theorem field_zero (hf : f ∈ fields) : f zero = 0 := by
  simp only [fields, List.mem_cons, List.not_mem_nil, or_false] at hf
  rcases hf with rfl | rfl | rfl | rfl | rfl | rfl <;> rfl

/-- The greater of two tallies is field by field the greater count. -/
theorem field_max (hf : f ∈ fields) (a b : Tally) : f (a.max b) = Nat.max (f a) (f b) := by
  simp only [fields, List.mem_cons, List.not_mem_nil, or_false] at hf
  rcases hf with rfl | rfl | rfl | rfl | rfl | rfl <;> rfl

end Tally

namespace Peaks

/-- Peaks over tallies: how many there are, and the greatest of each of the six counts, which is zero
if there is no tally. -/
structure Summarizes (p : Peaks) (tallies : List Tally) : Prop where
  samples : p.samples = tallies.length
  bound : ∀ f ∈ Tally.fields, ∀ t ∈ tallies, f t ≤ f p.tally
  attained : ∀ f ∈ Tally.fields, (∃ t ∈ tallies, f t = f p.tally) ∨ tallies = [] ∧ f p.tally = 0

variable {p q : Peaks} {tallies others : List Tally}

theorem summarizes_nil : (⟨0, .zero⟩ : Peaks).Summarizes [] :=
  ⟨rfl, fun _ _ _ h => (nomatch h), fun _ hf => .inr ⟨rfl, Tally.field_zero hf⟩⟩

/-- One more tally raises the peaks that it exceeds. -/
theorem Summarizes.add (h : p.Summarizes tallies) (t : Tally) :
    (⟨p.samples + 1, p.tally.max t⟩ : Peaks).Summarizes (tallies ++ [t]) := by
  constructor
  · rw [List.length_append, ← h.samples]
    rfl
  · intro f hf
    show ∀ u ∈ tallies ++ [t], f u ≤ f (p.tally.max t)
    rw [Tally.field_max hf]
    refine List.forall_mem_append.mpr ⟨fun u hu => ?_, List.forall_mem_singleton.mpr ?_⟩
    · exact Nat.le_trans (h.bound f hf u hu) (Nat.le_max_left _ _)
    · exact Nat.le_max_right _ _
  · intro f hf
    refine .inl ?_
    show ∃ u ∈ tallies ++ [t], f u = f (p.tally.max t)
    rw [Tally.field_max hf]
    by_cases hle : f p.tally ≤ f t
    · exact ⟨t, List.mem_append_right _ (List.mem_singleton.mpr rfl), (Nat.max_eq_right hle).symm⟩
    · rcases h.attained f hf with ⟨u, hu, heq⟩ | ⟨-, hzero⟩
      · exact ⟨u, List.mem_append_left _ hu, heq.trans (Nat.max_eq_left (Nat.le_of_not_le hle)).symm⟩
      · exact absurd (hzero ▸ Nat.zero_le _) hle

theorem ofSamples_append_singleton (samples : List CountSample) (c : CountSample) :
    ofSamples (samples ++ [c]) =
      ⟨(ofSamples samples).samples + 1, (ofSamples samples).tally.max c.tally⟩ := by
  rw [ofSamples, List.length_append, List.foldl_append]
  rfl

theorem ofSamples_summarizes (samples : List CountSample) :
    (ofSamples samples).Summarizes (samples.map (·.tally)) := by
  induction samples using List.reverseRecOn with
  | nil => exact summarizes_nil
  | append_singleton samples c ih =>
      rw [ofSamples_append_singleton, List.map_append]
      exact ih.add c.tally

theorem Summarizes.of_perm (h : p.Summarizes tallies) (hperm : tallies.Perm others) :
    p.Summarizes others := by
  refine ⟨h.samples.trans hperm.length_eq, fun f hf t ht => h.bound f hf t (hperm.mem_iff.mpr ht), ?_⟩
  intro f hf
  rcases h.attained f hf with ⟨t, ht, heq⟩ | ⟨rfl, hzero⟩
  · exact .inl ⟨t, hperm.mem_iff.mp ht, heq⟩
  · exact .inr ⟨hperm.symm.eq_nil, hzero⟩

/-- Tallies have only one summary. -/
theorem Summarizes.unique (hp : p.Summarizes tallies) (hq : q.Summarizes tallies) : p = q := by
  have hle : ∀ {p q : Peaks}, p.Summarizes tallies → q.Summarizes tallies →
      ∀ f ∈ Tally.fields, f p.tally ≤ f q.tally := by
    intro p q hp hq f hf
    rcases hp.attained f hf with ⟨t, ht, heq⟩ | ⟨-, hzero⟩
    · rw [← heq]
      exact hq.bound f hf t ht
    · rw [hzero]
      exact Nat.zero_le _
  have htally : p.tally = q.tally :=
    Tally.eq_of_fields fun f hf => Nat.le_antisymm (hle hp hq f hf) (hle hq hp f hf)
  cases p
  cases q
  rw [mk.injEq]
  exact ⟨hp.samples.trans hq.samples.symm, htally⟩

end Peaks

end StorageLifecycle
