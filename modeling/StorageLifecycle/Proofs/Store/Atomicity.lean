import StorageLifecycle.Proofs.Store.Memory
import StorageLifecycle.Proofs.Store.Relational
import StorageLifecycle.Proofs.Store.Views

/-!
# The stores are atomic

The store in memory checks a batch of events before it stores any of it, and the relational store rolls
a refused batch back. Both are atomic, and so is a store that fails on demand.
-/

namespace StorageLifecycle

/-- The event without the number of its row. -/
def Event.unsaved (e : Event) : Event := { e with id := none }

namespace MemoryStore

variable {m m' : MemoryStore}

/-- Events and samples as they were given. -/
def view : StoreView MemoryStore Event CountSample :=
  .ofLists (fun m => m.events.map Event.unsaved) (fun m => m.counts) Event.unsaved id

theorem appendEvents_unsaved (batch : List Event) :
    (m.appendEvents batch).events.map Event.unsaved =
      m.events.map Event.unsaved ++ batch.map Event.unsaved := by
  induction batch generalizing m with
  | nil => exact (List.append_nil _).symm
  | cons e rest ih =>
      refine ih.trans ?_
      rw [List.map_append, List.append_assoc]
      rfl

theorem saveEvents_gained {batch : List Event} (h : m.saveEvents batch = .ok m') :
    view.Gained m m' (view.batch batch) 0 := by
  obtain ⟨-, rfl⟩ := saveEvents_eq_ok_iff.mp h
  obtain ⟨_, _, _, _, _, _, hcounts, _⟩ := appendEvents_spec (m := m) batch
  exact StoreView.gained_ofLists _ [] (appendEvents_unsaved batch)
    (hcounts.trans (List.append_nil _).symm)

theorem view_atomic : view.Atomic where
  saveEntities {batch m m' answer} h := by
    cases h
    obtain ⟨hevents, hcounts, _⟩ := saveEntities_rest m batch
    refine StoreView.gained_ofLists [] [] ?_ ?_
    · rw [hevents, List.append_nil]
    · rw [hcounts, List.append_nil]
  saveEvents batch :=
    { ok := fun h => saveEvents_gained (StoreM.change_of_ok h)
      error := fun h => by
        obtain ⟨_, rfl⟩ := StoreM.change_of_error h
        exact StoreView.Gained.refl view _ }
  saveCounts batch :=
    { ok := fun {m m'} h => by
        cases h
        refine StoreView.gained_ofLists [] (batch.map id) ?_ ?_
        · exact (List.append_nil _).symm
        · rw [List.map_id]
          rfl
      error := fun h => nomatch congrArg Prod.fst h }

end MemoryStore

namespace RelationalStore

open Relational

/-- Rows without their numbers. -/
def view : StoreView RelationalStore EventRow CountRow :=
  .ofLists (fun s => s.events.rows.map EventRow.unnumbered)
    (fun s => s.counts.rows.map CountRow.unnumbered) (EventRow.ofEvent 0) (CountRow.ofSample 0)

variable {s s' : RelationalStore}

theorem Widened.gained (h : s.Widened s') : view.Gained s s' 0 0 := by
  refine StoreView.gained_ofLists [] [] ?_ ?_
  · rw [h.events, List.append_nil]
  · rw [h.counts, List.append_nil]

theorem Logged.gained {batch : List Event} (h : s.Logged batch s') :
    view.Gained s s' (view.batch batch) 0 := by
  obtain ⟨added, hadded, hsame⟩ := h.events
  refine StoreView.gained_ofLists (batch.map (EventRow.ofEvent 0)) [] ?_ ?_
  · rw [hadded, List.map_append, hsame]
  · rw [h.counts, List.append_nil]

theorem Sampled.gained {batch : List CountSample} (h : s.Sampled batch s') :
    view.Gained s s' 0 (view.series batch) := by
  obtain ⟨added, hadded, hsame⟩ := h.counts
  refine StoreView.gained_ofLists [] (batch.map (CountRow.ofSample 0)) ?_ ?_
  · rw [h.events, List.append_nil]
  · rw [hadded, List.map_append, hsame]

theorem view_atomic : view.Atomic where
  saveEntities {batch s s' answer} h := by
    have hwidened := saveEntities_widened (s := s) batch
    rw [show (s.saveEntities batch).2 = s' from congrArg Prod.snd h] at hwidened
    exact hwidened.gained
  saveEvents batch :=
    { ok := fun h => (saveEvents_of_ok (StoreM.change_of_ok h)).gained
      error := fun h => by
        obtain ⟨_, rfl⟩ := StoreM.change_of_error h
        exact StoreView.Gained.refl view _ }
  saveCounts batch :=
    { ok := fun h => (saveCounts_of_ok (StoreM.change_of_ok h)).gained
      error := fun h => by
        obtain ⟨_, rfl⟩ := StoreM.change_of_error h
        exact StoreView.Gained.refl view _ }

end RelationalStore

namespace Faulty

variable {σ ε κ : Type} {α : Type}

/-- An operation fails as it was planned to, or does what the store does. -/
theorem guarded_cases {m : StoreMethod} {op : StoreM σ α} {f f' : Faulty σ}
    {answer : Except StoreError α} (h : (guarded m op).perform f = (answer, f')) :
    (∃ e, answer = .error e ∧ f'.store = f.store) ∨ op.perform f.store = (answer, f'.store) := by
  unfold guarded StoreM.perform at h
  dsimp only at h
  split at h
  · cases h
    exact Or.inl ⟨_, rfl, rfl⟩
  · cases h
    exact Or.inr rfl

/-- A store that fails on demand keeps what the store keeps. -/
def view (v : StoreView σ ε κ) : StoreView (Faulty σ) ε κ :=
  ⟨fun f => v.events f.store, fun f => v.samples f.store, v.event, v.sample⟩

theorem gained {v : StoreView σ ε κ} {f f' : Faulty σ} {E : Multiset ε} {S : Multiset κ}
    (h : v.Gained f.store f'.store E S) : (view v).Gained f f' E S := ⟨h.events, h.samples⟩

theorem gained_of_same {v : StoreView σ ε κ} {f f' : Faulty σ} (h : f'.store = f.store) :
    (view v).Gained f f' 0 0 := by
  apply gained
  rw [h]
  exact StoreView.Gained.refl v f.store

theorem whole {v : StoreView σ ε κ} {m : StoreMethod} {op : StoreM σ Unit} {E : Multiset ε}
    {S : Multiset κ} (h : v.Whole op E S) : (view v).Whole (guarded m op) E S where
  ok hrun := by
    rcases guarded_cases hrun with ⟨_, herror, _⟩ | hstore
    · exact nomatch herror
    · exact gained (h.ok hstore)
  error hrun := by
    rcases guarded_cases hrun with ⟨_, _, hsame⟩ | hstore
    · exact gained_of_same hsame
    · exact gained (h.error hstore)

/-- Faults do not make a store any less atomic. -/
theorem view_atomic [EventStore σ] {v : StoreView σ ε κ} (hv : v.Atomic) : (view v).Atomic where
  saveEntities hrun := by
    rcases guarded_cases hrun with ⟨_, _, hsame⟩ | hstore
    · exact gained_of_same hsame
    · exact gained (hv.saveEntities hstore)
  saveEvents batch := whole (hv.saveEvents batch)
  saveCounts batch := whole (hv.saveCounts batch)

end Faulty

end StorageLifecycle
