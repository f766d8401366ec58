import StorageLifecycle.Proofs.Backends.Legible

/-!
# The rows of a relational store over time

A write adds rows behind those that are there, under ids above theirs, or it closes a test case, or it is
refused. So rows are in the order in which they were written, whatever is called, and a row of an entity or
of a test case is found under its id ever after.
-/

namespace StorageLifecycle

open Relational

namespace RelationalStore

variable {s s' : RelationalStore}

/-- Is the write refused? -/
def Refuses (s : RelationalStore) : StoreWrite → Prop
  | .saveEntities _ => False
  | .saveEvents batch => ∃ e, s.saveEvents batch = .error e
  | .saveCounts batch => ∃ e, s.saveCounts batch = .error e
  | .createTestCase tc => ∃ e, s.createTestCase tc = .error e
  | .finishTestCase id success now => ∃ e, s.finishTestCase id success now = .error e

/-- What a write does to the rows of a store. -/
inductive Wrote (s : RelationalStore) : StoreWrite → RelationalStore → Prop where
  | refused {w : StoreWrite} : s.Refuses w → Wrote s w s
  | entities {batch : List Entity} {s' : RelationalStore} : s.Widened s' → Wrote s (.saveEntities batch) s'
  | events {batch : List Event} {s' : RelationalStore} :
    s.saveEvents batch = .ok s' → Wrote s (.saveEvents batch) s'
  | counts {batch : List CountSample} {s' : RelationalStore} :
    s.saveCounts batch = .ok s' → Wrote s (.saveCounts batch) s'
  | created {tc : TestCase} {id : TestCaseId} : s.testCases.next TestCaseRow.id = .ok id →
      Wrote s (.createTestCase tc) { s with testCases := s.testCases.push id (.ofTestCase id tc) }
  | finished {id : TestCaseId} {success : Bool} {now : Instant} :
    Wrote s (.finishTestCase id success now) { s with testCases := { s.testCases with
      rows := s.testCases.rows.map fun r => if r.id = id then closedRow now success r else r } }

theorem run_wrote (s : RelationalStore) (w : StoreWrite) : s.Wrote w (w.run.perform s).2 := by
  cases w with
  | saveEntities batch => exact .entities (saveEntities_widened batch)
  | saveEvents batch =>
      rw [StoreWrite.run, StoreM.perform_map]
      exact StoreM.after_change (fun _ hok => .events hok) fun e h => .refused ⟨e, h⟩
  | saveCounts batch =>
      rw [StoreWrite.run, StoreM.perform_map]
      exact StoreM.after_change (fun _ hok => .counts hok) fun e h => .refused ⟨e, h⟩
  | createTestCase tc =>
      rw [StoreWrite.run, StoreM.perform_map]
      refine StoreM.after_writing (fun id _ hok => ?_) fun e h => .refused ⟨e, h⟩
      obtain ⟨_, hid, hdone⟩ := bind_of_ok hok
      cases hdone
      exact .created hid
  | finishTestCase id success now =>
      rw [StoreWrite.run, StoreM.perform_map]
      refine StoreM.after_change (fun _ hok => ?_) fun e h => .refused ⟨e, h⟩
      obtain ⟨-, rfl⟩ := finishTestCase_of_ok hok
      exact .finished

/-! ## Order -/

theorem insertEvent_eq_ok_iff {e : Event} :
    s.insertEvent e = .ok s' ↔ ∃ id, s.events.next EventRow.id = .ok id ∧
      (∀ r ∈ s.events.rows, r.name ≠ .text e.name) ∧ s.hasTestCase e.testCase = true ∧
        s.hasEntity e.entity = true ∧ s' = { s with events := s.events.push id (.ofEvent id e) } := by
  have hany : (s.events.rows.any fun r => r.name == .text e.name) = true ↔
      ¬∀ r ∈ s.events.rows, r.name ≠ .text e.name := by simp
  unfold insertEvent
  constructor
  · intro h
    obtain ⟨id, hid, h⟩ := bind_of_ok h
    split at h
    · exact nomatch h
    rename_i hname
    split at h
    · rename_i hknown
      cases h
      obtain ⟨hcase, hentity⟩ := Bool.and_eq_true_iff.mp hknown
      exact ⟨id, hid, Classical.not_not.mp fun hne => hname (hany.mpr hne), hcase, hentity, rfl⟩
    · exact nomatch h
  · rintro ⟨id, hid, hname, hcase, hentity, rfl⟩
    rw [hid, ok_bind, if_neg fun h => hany.mp h hname, hcase, hentity, Bool.and_self, if_pos rfl]
    rfl

/-- Rows are in the order of their ids. -/
structure Ascending (s : RelationalStore) : Prop where
  events : (s.events.rows.map EventRow.id).Pairwise (· < ·)
  counts : (s.counts.rows.map CountRow.id).Pairwise (· < ·)
  testCases : (s.testCases.rows.map TestCaseRow.id).Pairwise (· < ·)

theorem ascending_empty : empty.Ascending := ⟨List.Pairwise.nil, List.Pairwise.nil, List.Pairwise.nil⟩

theorem Ascending.insertEvent (h : s.Ascending) {e : Event} (hok : s.insertEvent e = .ok s') :
    s'.Ascending := by
  obtain ⟨id, hid, -, -, -, rfl⟩ := insertEvent_eq_ok_iff.mp hok
  exact ⟨Table.ascending_push hid rfl h.events, h.counts, h.testCases⟩

theorem Ascending.insertCount (h : s.Ascending) {c : CountSample} (hok : s.insertCount c = .ok s') :
    s'.Ascending := by
  obtain ⟨id, hid, hdone⟩ := bind_of_ok hok
  split at hdone
  · cases hdone
    exact ⟨h.events, Table.ascending_push hid rfl h.counts, h.testCases⟩
  · exact nomatch hdone

/-- What each step of a batch keeps is kept by the batch. -/
theorem keeps_foldlM {α : Type} {P : RelationalStore → Prop}
    {f : RelationalStore → α → Except StoreError RelationalStore}
    (hone : ∀ {s s' a}, P s → f s a = .ok s' → P s') {batch : List α} (h : P s)
    (hok : batch.foldlM f s = .ok s') : P s' := by
  induction batch generalizing s with
  | nil =>
      cases hok
      exact h
  | cons a rest ih =>
      rw [List.foldlM_cons] at hok
      obtain ⟨s₁, hfirst, hrest⟩ := bind_of_ok hok
      exact ih (hone h hfirst) hrest

theorem Ascending.wrote (h : s.Ascending) {w : StoreWrite} (hw : s.Wrote w s') : s'.Ascending := by
  cases hw with
  | refused _ => exact h
  | entities hwidened =>
      exact ⟨hwidened.events ▸ h.events, hwidened.counts ▸ h.counts, hwidened.testCases ▸ h.testCases⟩
  | events hok => exact keeps_foldlM (fun h => h.insertEvent) h hok
  | counts hok => exact keeps_foldlM (fun h => h.insertCount) h hok
  | created hid => exact ⟨h.events, h.counts, Table.ascending_push hid rfl h.testCases⟩
  | @finished id success now =>
      refine ⟨h.events, h.counts, ?_⟩
      have hids : (s.testCases.rows.map fun r => if r.id = id then closedRow now success r else r).map
          TestCaseRow.id = s.testCases.rows.map TestCaseRow.id := by
        rw [List.map_map]
        refine List.map_congr_left fun r _ => ?_
        rw [Function.comp_apply]
        split <;> rfl
      exact hids.symm ▸ h.testCases

/-! ## Calls -/

/-- What the writes of a sequence of calls keep is kept by the sequence. -/
theorem keeps_afterAll {P : RelationalStore → Prop} {calls : List StoreCall}
    (hwrite : ∀ {s s' w}, .write w ∈ calls → P s → s.Wrote w s' → P s') (h : P s) :
    P (StoreCall.afterAll s calls) := by
  refine List.foldlRecOn calls StoreCall.after h fun s h c hc => ?_
  cases c with
  | write w => exact hwrite hc h (s.run_wrote w)
  | read r => exact (after_read s r).symm ▸ h

theorem Ascending.afterAll (h : s.Ascending) (calls : List StoreCall) :
    (StoreCall.afterAll s calls).Ascending :=
  keeps_afterAll (fun _ h => h.wrote) h

/-- Rows of entities stay. -/
theorem Wrote.entity_mem {w : StoreWrite} (h : s.Wrote w s') {r : EntityRow} (hr : r ∈ s.entities.rows) :
    r ∈ s'.entities.rows := by
  cases h with
  | refused _ => exact hr
  | entities hwidened => exact hwidened.entities.mem hr
  | events hok => exact (saveEvents_of_ok hok).entities ▸ hr
  | counts hok => exact (saveCounts_of_ok hok).entities ▸ hr
  | created _ => exact hr
  | finished => exact hr

theorem entity_mem_afterAll {r : EntityRow} (hr : r ∈ s.entities.rows) (calls : List StoreCall) :
    r ∈ (StoreCall.afterAll s calls).entities.rows :=
  keeps_afterAll (P := fun s => r ∈ s.entities.rows) (fun _ hr h => h.entity_mem hr) hr

end RelationalStore

end StorageLifecycle
