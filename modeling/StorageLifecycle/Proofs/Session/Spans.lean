import StorageLifecycle.Metrics.Timeline
import StorageLifecycle.Proofs.Session.Clamp
import StorageLifecycle.Proofs.Session.Grammar

/-!
# From the start of a stage to its end

A stage starts with the first type of a course, or it ends with the last one. Since types fire in the
order of their course and stamps do not go back, no session fires the end of a stage at an earlier moment
than its start, whatever the clock does.
-/

namespace StorageLifecycle

/-- Both ends of a stage belong to one course, and one of them is an end of the course. -/
theorem Stage.bounds_cases {stage : Stage} {k : ResourceKind} (h : stage.bounds.1 ∈ k.course.types) :
    stage.bounds.1 = k.course.created ∨ stage.bounds.2 = k.course.terminal := by
  revert h
  cases stage <;> cases k <;> decide

theorem Stage.same_course {stage : Stage} {k k' : ResourceKind} (h : stage.bounds.1 ∈ k.course.types)
    (h' : stage.bounds.2 ∈ k'.course.types) : k = k' := by
  revert h h'
  cases stage <;> cases k <;> cases k' <;> decide

/-- A word that has the first type begins with it, and has it once. -/
theorem Course.Complies.head_of_created {c : Course} {types : List EventType} (hc : c.types.Nodup)
    (h : c.Complies types) (hmem : c.created ∈ types) :
    ∃ rest, types = c.created :: rest ∧ c.created ∉ rest := by
  have hnodup := h.nodup hc
  rcases h with rfl | rfl | ⟨middle, rest, rfl, _⟩
  · exact nomatch hmem
  · exact absurd (List.mem_singleton.mp hmem) (created_ne_terminal hc)
  · exact ⟨middle ++ rest, rfl, (List.nodup_cons.mp hnodup).1⟩

namespace Session

variable {s : Session} {k : ResourceKind}

/-- Types that fire are types of the course. -/
theorem Orderly.type_mem (h : s.Orderly k) {f : Firing} (hf : f ∈ s.fired) :
    f.type ∈ k.course.types := by
  have hmem : f.type ∈ s.firedTypes f.resource :=
    List.mem_map_of_mem (Firing.mem_on.mpr ⟨hf, rfl⟩)
  rcases h.complies f.resource with hnone | hlast | ⟨middle, rest, hsplit, _, hmiddle, hrest⟩
  · rw [hnone] at hmem
    exact nomatch hmem
  · rw [hlast, List.mem_singleton] at hmem
    simp [hmem, Course.types]
  · rw [hsplit] at hmem
    rcases List.mem_append.mp hmem with hmem | hmem
    · rcases List.mem_cons.mp hmem with heq | hmem
      · simp [heq, Course.types]
      · have hshown := hmiddle hmem
        simp only [List.mem_cons, List.not_mem_nil, or_false] at hshown
        rcases hshown with heq | heq <;> simp [heq, Course.types]
    · rcases hrest with rfl | rfl
      · exact nomatch hmem
      · simp [List.mem_singleton.mp hmem, Course.types]

/-- A sample leaves alone what has fired. -/
theorem Orderly.sample (h : s.Orderly k) (l : Listing) : (s.sample l).Orderly k :=
  ⟨h.kind, h.complies, h.done⟩

/-- What fired for a name is in the order of the moments. -/
theorem Clamped.firedOn_sorted (h : s.Clamped) (name : String) :
    (s.firedOn name).Pairwise fun f g => f.moment ≤ g.moment :=
  h.ordered.sublist List.filter_sublist

/-- Nothing fires for a name before the first type. -/
theorem Orderly.created_le (h : s.Orderly k) (hc : s.Clamped) {f g : Firing} (hf : f ∈ s.fired)
    (hg : g ∈ s.fired) (hname : f.resource = g.resource) (hcreated : f.type = k.course.created) :
    f.moment ≤ g.moment := by
  have hf : f ∈ s.firedOn g.resource := Firing.mem_on.mpr ⟨hf, hname⟩
  have hg : g ∈ s.firedOn g.resource := Firing.mem_on.mpr ⟨hg, rfl⟩
  have hsorted := hc.firedOn_sorted g.resource
  obtain ⟨rest, htypes, hrest⟩ := (h.complies g.resource).head_of_created
    (ResourceKind.course_nodup k) (hcreated ▸ List.mem_map_of_mem hf)
  unfold firedTypes at htypes
  obtain ⟨first, others, hsplit, -, rfl⟩ := List.map_eq_cons_iff.mp htypes
  change s.firedOn g.resource = _ at hsplit
  rw [hsplit] at hf hg hsorted
  rcases List.mem_cons.mp hf with rfl | hf
  · rcases List.mem_cons.mp hg with rfl | hg
    · exact Int.le_refl _
    · exact List.rel_of_pairwise_cons hsorted hg
  · exact absurd (hcreated ▸ List.mem_map_of_mem hf) hrest

/-- Nothing fires for a name after the last type. -/
theorem Orderly.le_terminal (h : s.Orderly k) (hc : s.Clamped) {f g : Firing} (hf : f ∈ s.fired)
    (hg : g ∈ s.fired) (hname : f.resource = g.resource) (hterminal : g.type = k.course.terminal) :
    f.moment ≤ g.moment := by
  have hf : f ∈ s.firedOn g.resource := Firing.mem_on.mpr ⟨hf, hname⟩
  have hg : g ∈ s.firedOn g.resource := Firing.mem_on.mpr ⟨hg, rfl⟩
  have hsorted := hc.firedOn_sorted g.resource
  rcases (h.complies g.resource).terminal_cases (ResourceKind.course_nodup k) with
    habsent | ⟨init, htypes, hinit⟩
  · exact absurd (hterminal ▸ List.mem_map_of_mem hg) habsent
  · unfold firedTypes at htypes
    obtain ⟨earlier, last, hsplit, rfl, hlast⟩ := List.map_eq_append_iff.mp htypes
    obtain ⟨final, rfl, -⟩ := List.map_eq_singleton_iff.mp hlast
    change s.firedOn g.resource = _ at hsplit
    rw [hsplit] at hf hg hsorted
    rcases List.mem_append.mp hg with hg | hg
    · exact absurd (hterminal ▸ List.mem_map_of_mem hg) hinit
    · rcases List.mem_append.mp hf with hf | hf
      · exact (List.pairwise_append.mp hsorted).2.2 f hf g hg
      · rw [List.mem_singleton.mp hf, List.mem_singleton.mp hg]
        exact Int.le_refl _

/-- What starts a stage fires for a name no later than what ends it. -/
theorem Orderly.stage_le (h : s.Orderly k) (hc : s.Clamped) {stage : Stage} {f g : Firing}
    (hf : f ∈ s.fired) (hg : g ∈ s.fired) (hname : f.resource = g.resource)
    (hstart : f.type = stage.bounds.1) (hstop : g.type = stage.bounds.2) : f.moment ≤ g.moment := by
  rcases Stage.bounds_cases (hstart ▸ h.type_mem hf) with hcreated | hterminal
  · exact h.created_le hc hf hg hname (hstart.trans hcreated)
  · exact h.le_terminal hc hf hg hname (hstop.trans hterminal)

end Session

end StorageLifecycle
