import StorageLifecycle.Proofs.Backends.Lockstep

/-!
# The identity of entities in both stores

Two saved entities are one entity to a store if it gives them the same id. The store in memory and the
relational store tell the same entities apart as long as no entity that is saved is ambiguous. Each
ambiguous one makes a difference: the relational store gives it the id of a row that is another
entity in memory.
-/

namespace StorageLifecycle

open Relational

/-- Entities are given the same id by one store if and only if they are by the other one. -/
def SameIdentity (ids : List (EntityId × EntityId)) : Prop :=
  ∀ p ∈ ids, ∀ q ∈ ids, (p.1 = q.1 ↔ p.2 = q.2)

instance (ids : List (EntityId × EntityId)) : Decidable (SameIdentity ids) :=
  inferInstanceAs (Decidable (∀ p ∈ ids, ∀ q ∈ ids, (p.1 = q.1 ↔ p.2 = q.2)))

namespace Twins

/-- An id that was given is translated into one that was given along with it. -/
theorem exists_given {t : Twins} {i : EntityId} (hi : i ∈ t.ids.map Prod.fst) :
    ∃ p ∈ t.ids, p.1 = i ∧ p.2 = t.translate i := by
  cases hfind : t.ids.lookup i with
  | none => exact absurd hi (lookup_eq_none_iff.mp hfind)
  | some j =>
      obtain ⟨before, after, hids, _⟩ := List.lookup_eq_some_iff.mp hfind
      refine ⟨(i, j), hids ▸ List.mem_append_right _ List.mem_cons_self, rfl, ?_⟩
      show j = (t.ids.lookup i).getD i
      rw [hfind]
      rfl

theorem Matching.sameIdentity_iff_agreed {t : Twins} (h : t.Matching) :
    SameIdentity t.ids ↔ t.Agreed := by
  constructor
  · intro hsame p hp
    obtain ⟨q, hq, hfirst, hsecond⟩ := exists_given (List.mem_map_of_mem hp)
    rw [← hsecond]
    exact (hsame p hp q hq).mp hfirst.symm
  · intro hagreed p hp q hq
    have hgiven : ∀ p ∈ t.ids, p.1 ∈ t.memory.entities.map (·.id) :=
      fun p hp => (h.entities.given p.1).mp (List.mem_map_of_mem hp)
    rw [hagreed p hp, hagreed q hq]
    exact ⟨congrArg _, h.entities.injOn (hgiven p hp) (hgiven q hq)⟩

/-- Whatever is written to an empty store in memory and to an empty relational store, both tell the same
entities apart if and only if no entity was ambiguous when it was saved. -/
theorem sameIdentity_iff_unambiguous {ws : List StoreWrite}
    (hfit : StoreWrite.Along StoreWrite.Fits .empty ws) :
    UnlessFull (StoreWrite.sizes ws)
      (fun t => t.ids.length = (ws.flatMap StoreWrite.entities).length ∧
        (SameIdentity t.ids ↔ StoreWrite.Along (StoreWrite.Saves Unambiguous) .empty ws))
      (empty.run ws) := by
  refine (matching_empty.run hfit (Nat.le_of_eq (Nat.zero_add _))).imp fun t ht => ?_
  obtain ⟨hmatching, hsaved, hagreed⟩ := ht
  refine ⟨hsaved.trans (Nat.zero_add _), hmatching.sameIdentity_iff_agreed.trans (hagreed.trans ?_)⟩
  exact and_iff_right (List.forall_mem_nil _)

/-- A claim that was made anew under its name, and one that was renamed. -/
theorem sameIdentity_iff_unambiguous_renamed :
    ∃ t, empty.run [.createTestCase (.fresh "t" "r" .epoch),
      .saveEntities [.fresh "a" "u1" .pvc 1, .fresh "b" "u2" .pvc 1],
      .saveEntities [.fresh "a" "u3" .pvc 1, .fresh "c" "u2" .pvc 1, .fresh "d" "u4" .pvc 1]] =
        .ok t ∧ t.ids = [(1, 1), (2, 2), (1, 1), (2, 2), (3, 5)] ∧ SameIdentity t.ids := by
  have hfit : StoreWrite.Along StoreWrite.Fits .empty
      [.createTestCase (.fresh "t" "r" .epoch),
        .saveEntities [.fresh "a" "u1" .pvc 1, .fresh "b" "u2" .pvc 1],
        .saveEntities [.fresh "a" "u3" .pvc 1, .fresh "c" "u2" .pvc 1, .fresh "d" "u4" .pvc 1]] := by
    decide +kernel
  have hrun := sameIdentity_iff_unambiguous hfit
  exact ⟨_, rfl, by decide +kernel, hrun.2.mpr (by decide +kernel)⟩

/-- A claim is known by its UID until a younger one takes its name. In memory it keeps its row; in the
relational store it goes by the name. -/
theorem not_sameIdentity_nameTaken :
    ∃ t, empty.run [.createTestCase (.fresh "t" "r" .epoch),
      .saveEntities [.fresh "a" "u1" .pvc 1, .fresh "b" "u1" .pvc 1, .fresh "b" "u2" .pvc 1,
        .fresh "b" "u1" .pvc 1]] = .ok t ∧
      t.ids = [(1, 1), (1, 1), (2, 3), (1, 3)] ∧ ¬SameIdentity t.ids :=
  ⟨_, rfl, by decide +kernel, by decide +kernel⟩

end Twins

end StorageLifecycle
