import StorageLifecycle.Proofs.Ensemble.Joint
import StorageLifecycle.Proofs.Metrics.Renumbering

/-!
# The numbers of two runs

Two ensembles that were fed the same know the same entities at their ends, under numbers of their
own. The number that an entity has in the one determines the number that it has in the other, and
changing the numbers so turns the rows of the one store into those of the other.
-/

namespace StorageLifecycle

open Ensemble

/-! ## An entity has a number of its own -/

section

variable {initial store : MemoryStore} {id : TestCaseId} {owners : List Session.Owner}
  {cached : List Entity}

theorem MemoryStore.withUid_eq_some {m : MemoryStore} {uid : String} {row : Entity}
    (h : m.withUid uid = some row) : row ∈ m.entities ∧ row.uid = uid :=
  ⟨List.mem_of_find?_eq_some h, by simpa using List.find?_some h⟩

/-- An entity that has the number of an earlier row has taken it over. -/
theorem Filed.withUid_of_id (h : Filed initial store id owners cached) {x row : Entity}
    (hx : x ∈ cached) (hrow : row ∈ initial.entities) (hid : x.id = row.id) :
    initial.withUid x.uid = some row := by
  obtain ⟨rows, hrows, hperm⟩ := h.rows
  have hnodup := h.sound.nodup
  rw [hrows, List.map_append] at hnodup
  obtain ⟨hearlier, _, hapart⟩ := List.nodup_append.mp hnodup
  cases hwith : initial.withUid x.uid with
  | none =>
      have hnew : x ∈ rows := by
        refine hperm.mem_iff.mpr (List.mem_filter.mpr ⟨hx, ?_⟩)
        rw [hwith]
        rfl
      exact absurd hid.symm (hapart _ (List.mem_map_of_mem hrow) _ (List.mem_map_of_mem hnew))
  | some row' =>
      obtain ⟨hrow', _⟩ := MemoryStore.withUid_eq_some hwith
      have hsame : row'.id = row.id := (h.earlier x hx row' hwith).symm.trans hid
      rw [List.inj_on_of_nodup_map hearlier hrow' hrow hsame]

/-- Entities of different types or names have different numbers. -/
theorem Filed.eq_of_id (h : Filed initial store id owners cached) (huid : OneUid owners)
    (hunique : ∀ x ∈ cached, ∀ y ∈ cached, x.type = y.type → x.name = y.name → x = y) {x y : Entity}
    (hx : x ∈ cached) (hy : y ∈ cached) (hid : x.id = y.id) : x = y := by
  -- Two entities that took over one row have one UID, so they have the same type and name.
  have hshared : ∀ row, initial.withUid x.uid = some row → initial.withUid y.uid = some row →
      x = y := by
    intro row hrowx hrowy
    obtain ⟨_, o, ho, htype, hname, hox⟩ := h.owned x hx
    obtain ⟨_, o', ho', htype', hname', hoy⟩ := h.owned y hy
    have heq : x.uid = y.uid :=
      (MemoryStore.withUid_eq_some hrowx).2.symm.trans (MemoryStore.withUid_eq_some hrowy).2
    obtain ⟨ht, hn⟩ := huid o ho o' ho' (hox.trans (heq.trans hoy.symm))
    exact hunique x hx y hy (htype.symm.trans (ht.trans htype')) (hname.symm.trans (hn.trans hname'))
  cases hwithx : initial.withUid x.uid with
  | some row =>
      have hrow := (MemoryStore.withUid_eq_some hwithx).1
      have hidrow : y.id = row.id := hid.symm.trans (h.earlier x hx row hwithx)
      exact hshared row hwithx (h.withUid_of_id hy hrow hidrow)
  | none =>
      cases hwithy : initial.withUid y.uid with
      | some row =>
          have hrow := (MemoryStore.withUid_eq_some hwithy).1
          have hidrow : x.id = row.id := hid.trans (h.earlier y hy row hwithy)
          exact nomatch hwithx.symm.trans (h.withUid_of_id hx hrow hidrow)
      | none =>
          obtain ⟨rows, hrows, hperm⟩ := h.rows
          have hnodup := h.sound.nodup
          rw [hrows, List.map_append] at hnodup
          have hnew : ∀ z ∈ cached, initial.withUid z.uid = none → z ∈ rows := by
            intro z hz hwith
            refine hperm.mem_iff.mpr (List.mem_filter.mpr ⟨hz, ?_⟩)
            rw [hwith]
            rfl
          exact List.inj_on_of_nodup_map (List.nodup_append.mp hnodup).2.1 (hnew x hx hwithx)
            (hnew y hy hwithy) hid

end

/-! ## From the one run to the other -/

/-- The number of the entity with the same key among `known'`. What is not the number of any of
`known` stays as it is. -/
def renumbering (known known' : List Entity) (i : EntityId) : EntityId :=
  ((known.find? fun x => x.id == i).bind fun x => known'.find? fun y => y.sameKey x).elim i (·.id)

variable {initial : MemoryStore} {id : TestCaseId} {feeds : Feeds} {e e₁ e₂ : Ensemble MemoryStore}

/-- Sessions know one entity of each type and name. -/
theorem Joint.cached_unique (h : Joint initial id feeds e) :
    ∀ x ∈ e.cached, ∀ y ∈ e.cached, x.type = y.type → x.name = y.name → x = y := by
  have hknown : ∀ x ∈ e.cached,
      (e.member (if x.type = .pod then .pod else .claim)).session.entities.find? x.name = some x := by
    intro x hx
    rcases List.mem_append.mp hx with hx | hx
    · obtain ⟨hfind, htype⟩ := (h.sane .claim).find?_of_known nofun hx
      rw [htype]
      exact hfind
    · obtain ⟨hfind, htype⟩ := (h.sane .pod).find?_of_known nofun hx
      rw [htype]
      exact hfind
  intro x hx y hy htype hname
  have hfind := hknown x hx
  rw [htype, hname, hknown y hy] at hfind
  exact (Option.some.inj hfind).symm

theorem Entity.key_of_unnumbered {x y : Entity} (h : x.unnumbered = y.unnumbered) :
    x.type = y.type ∧ x.name = y.name ∧ x.uid = y.uid ∧ x.testCase = y.testCase := by
  cases x
  cases y
  cases h
  exact ⟨rfl, rfl, rfl, rfl⟩

/-- The number of an entity in the first run determines its number in the second. -/
theorem renumbering_apply (h₁ : Joint initial id feeds e₁) (h₂ : Joint initial id feeds e₂)
    (hc : feeds.Consistent) {x y : Entity} (hx : x ∈ e₁.cached) (hy : y ∈ e₂.cached)
    (hxy : x.unnumbered = y.unnumbered) : renumbering e₁.cached e₂.cached x.id = y.id := by
  obtain ⟨htype, hname, _, hcase⟩ := Entity.key_of_unnumbered hxy
  have hfirst : (e₁.cached.find? fun z => z.id == x.id) = some x := by
    refine find?_of_unique hx (beq_self_eq_true x.id) fun z hz hid => ?_
    exact h₁.filed.eq_of_id hc.oneUid h₁.cached_unique hz hx (by simpa using hid)
  have hsecond : (e₂.cached.find? fun z => z.sameKey x) = some y := by
    refine find?_of_unique hy (by simp [Entity.sameKey, htype, hname, hcase]) fun z hz hkey => ?_
    simp only [Entity.sameKey, Bool.and_eq_true, beq_iff_eq] at hkey
    exact h₂.cached_unique z hz y hy (hkey.1.1.trans htype) (hkey.1.2.trans hname)
  rw [renumbering, hfirst, Option.bind_some, hsecond, Option.elim_some]

/-- Two lists of the same entities differ in their numbers only. -/
theorem map_renumber_eq {f : EntityId → EntityId} {xs ys : List Entity}
    (hsame : xs.map Entity.unnumbered = ys.map Entity.unnumbered)
    (hf : ∀ x ∈ xs, ∀ y ∈ ys, x.unnumbered = y.unnumbered → f x.id = y.id) :
    xs.map (Entity.renumber f) = ys := by
  induction xs generalizing ys with
  | nil => exact (List.map_eq_nil_iff.mp hsame.symm).symm
  | cons x rest ih =>
      cases ys with
      | nil => exact nomatch hsame
      | cons y rest' =>
          obtain ⟨hhead, htail⟩ := List.cons.inj hsame
          have hid := hf x List.mem_cons_self y List.mem_cons_self hhead
          have hrest := ih htail fun x' hx' y' hy' =>
            hf x' (List.mem_cons_of_mem _ hx') y' (List.mem_cons_of_mem _ hy')
          rw [List.map_cons, hrest]
          cases x
          cases y
          cases hhead
          exact congrArg (fun i => Entity.mk i _ _ _ _ :: rest') hid

section

variable (h₁ : Joint initial id feeds e₁) (h₂ : Joint initial id feeds e₂)
  (hsame : e₁.cached.map Entity.unnumbered = e₂.cached.map Entity.unnumbered)

include h₁ h₂ hsame

/-- The rows of earlier test cases keep their numbers. -/
theorem renumbering_of_earlier {row : Entity} (hrow : row ∈ initial.entities) :
    renumbering e₁.cached e₂.cached row.id = row.id := by
  unfold renumbering
  cases hfirst : e₁.cached.find? fun x => x.id == row.id with
  | none => rfl
  | some x =>
      rw [Option.bind_some]
      cases hsecond : e₂.cached.find? fun y => y.sameKey x with
      | none => rfl
      | some y =>
          have hx := List.mem_of_find?_eq_some hfirst
          have hid : x.id = row.id := by simpa using List.find?_some hfirst
          have hwith := h₁.filed.withUid_of_id hx hrow hid
          -- The entity of the second run took the same row over, since it has the same UID.
          obtain ⟨y', hy', hxy⟩ : ∃ y' ∈ e₂.cached, y'.unnumbered = x.unnumbered := by
            refine List.mem_map.mp ?_
            rw [← hsame]
            exact List.mem_map_of_mem hx
          obtain ⟨htype, hname, huid, _⟩ := Entity.key_of_unnumbered hxy
          have hkey := List.find?_some hsecond
          simp only [Entity.sameKey, Bool.and_eq_true, beq_iff_eq] at hkey
          have heq : y = y' := h₂.cached_unique y (List.mem_of_find?_eq_some hsecond) y' hy'
            (hkey.1.1.trans htype.symm) (hkey.1.2.trans hname.symm)
          rw [← huid] at hwith
          rw [Option.elim_some, heq]
          exact h₂.filed.earlier y' hy' row hwith

/-- Changing the numbers turns the rows of the first store into those of the second. -/
theorem entities_renumbered (hc : feeds.Consistent) :
    e₂.shared.store.entities.Perm
      (e₁.shared.store.entities.map (Entity.renumber (renumbering e₁.cached e₂.cached))) := by
  obtain ⟨rows₁, hrows₁, hperm₁⟩ := h₁.filed.rows
  obtain ⟨rows₂, hrows₂, hperm₂⟩ := h₂.filed.rows
  have hearlier : initial.entities.map (Entity.renumber (renumbering e₁.cached e₂.cached)) =
      initial.entities := by
    refine (List.map_congr_left fun row hrow => ?_).trans (List.map_id _)
    rw [Entity.renumber, renumbering_of_earlier h₁ h₂ hsame hrow]
    rfl
  have hknown : e₁.cached.map (Entity.renumber (renumbering e₁.cached e₂.cached)) = e₂.cached :=
    map_renumber_eq hsame fun x hx y hy hxy => renumbering_apply h₁ h₂ hc hx hy hxy
  rw [hrows₁, hrows₂, List.map_append, hearlier]
  refine List.Perm.append_left _ (hperm₂.trans (List.Perm.symm ?_))
  have hrows := hperm₁.map (Entity.renumber (renumbering e₁.cached e₂.cached))
  have hfilter := List.filter_map (f := Entity.renumber (renumbering e₁.cached e₂.cached))
    (p := fun x => (initial.withUid x.uid).isNone) (l := e₁.cached)
  rw [hknown] at hfilter
  rw [hfilter]
  exact hrows

end

end StorageLifecycle
