import StorageLifecycle.Proofs.Backends.Lockstep
import StorageLifecycle.Proofs.Backends.Reading
import StorageLifecycle.Proofs.Metrics.Partition

/-!
# A relational store can be read

Whatever is written to a relational store, and whatever is refused, each of its rows can be read back, as
long as the moments that are written are on the calendar and counts have 32 bits. Ids of entities ascend,
and by the foreign keys each event is of a stored entity. So a relational store answers every question
about a test case from its rows.
-/

namespace StorageLifecycle

/-- The calendar reaches the moments of events and samples, and counts have 32 bits. -/
def StoreWrite.InRange : StoreWrite → Prop
  | saveEvents batch => ∀ e ∈ batch, e.timestamp.OnCalendar
  | saveCounts batch => ∀ c ∈ batch, c.timestamp.OnCalendar ∧ ∀ n ∈ c.tally.toList, n < Word.bound 32
  | _ => True

instance : DecidablePred StoreWrite.InRange
  | .saveEvents batch => inferInstanceAs (Decidable (∀ e ∈ batch, e.timestamp.OnCalendar))
  | .saveCounts batch => inferInstanceAs (Decidable (∀ c ∈ batch, c.timestamp.OnCalendar ∧
      ∀ n ∈ c.tally.toList, n < Word.bound 32))
  | .saveEntities _ => inferInstanceAs (Decidable True)
  | .createTestCase _ => inferInstanceAs (Decidable True)
  | .finishTestCase _ _ _ => inferInstanceAs (Decidable True)

/-- The call reads, or it writes what is in range. -/
def StoreCall.InRange : StoreCall → Prop
  | write w => w.InRange
  | read _ => True

instance : DecidablePred StoreCall.InRange
  | .write w => inferInstanceAs (Decidable w.InRange)
  | .read _ => inferInstanceAs (Decidable True)

namespace Relational

/-- The entity that a row says, if it can be read. -/
def EntityRow.entity (r : EntityRow) : Entity :=
  match r.read with
  | .ok x => x
  | .error _ => ⟨r.id, "", "", .unknown, 0⟩

/-- The event that a row says, if it can be read. -/
def EventRow.event (r : EventRow) : Event :=
  match r.read with
  | .ok e => e
  | .error _ => ⟨none, "", 0, 0, default, .epoch⟩

theorem EntityRow.read_ofEntity (id : Int) (x : Entity) :
    (EntityRow.ofEntity id x).read = .ok { x with id } :=
  EntityRow.read_translated (fun _ => id) x

theorem EventRow.read_ofEvent (id : Int) {e : Event} (hdated : e.timestamp.OnCalendar) :
    (EventRow.ofEvent id e).read = .ok { e with id := some id, timestamp := e.timestamp.rounded } :=
  EventRow.read_translated (fun i => i) (e := { e with id := some id }) rfl hdated

/-- A row is read back under its number, and at a whole microsecond. -/
theorem EventRow.read_of_unnumbered {r : EventRow} {e : Event} (hr : r.unnumbered = .ofEvent 0 e)
    (hdated : e.timestamp.OnCalendar) :
    r.read = .ok { e with id := some r.id, timestamp := e.timestamp.rounded } := by
  have hrow : r = .ofEvent r.id e := congrArg (fun row : EventRow => { row with id := r.id }) hr
  rw [hrow]
  exact EventRow.read_ofEvent _ hdated

end Relational

open Relational

namespace RelationalStore

variable {s s' : RelationalStore}

/-- Each row can be read, ids of entities ascend, and events are of stored entities. -/
structure Legible (s : RelationalStore) : Prop where
  ascending : (s.entities.rows.map EntityRow.id).Pairwise (· < ·)
  entities : ∀ r ∈ s.entities.rows, ∃ x, r = .ofEntity r.id x
  events : ∀ r ∈ s.events.rows, ∃ e, r = .ofEvent r.id e ∧ e.timestamp.OnCalendar ∧
    s.hasEntity e.entity = true
  counts : ∀ r ∈ s.counts.rows, ∃ c, r.unnumbered = .ofSample 0 c ∧ c.timestamp.OnCalendar ∧
    ∀ n ∈ c.tally.toList, n < Word.bound 32
  testCases : ∀ r ∈ s.testCases.rows, ∃ tc, r.read = .ok tc

theorem legible_empty : empty.Legible :=
  ⟨List.Pairwise.nil, List.forall_mem_nil _, List.forall_mem_nil _, List.forall_mem_nil _,
    List.forall_mem_nil _⟩

/-! ## What is written can be read -/

theorem Legible.insertEntity (h : s.Legible) {e : Entity} {id : EntityId}
    (hok : s.insertEntity e = .ok (id, s')) : s'.Legible := by
  rcases insertEntity_cases hok with ⟨next, -, -, rfl⟩ | ⟨-, -, hnext, rfl⟩
  · exact ⟨h.ascending, h.entities, h.events, h.counts, h.testCases⟩
  · refine ⟨Table.ascending_push hnext rfl h.ascending, ?_, ?_, h.counts, h.testCases⟩
    · exact List.forall_mem_append.mpr ⟨h.entities, List.forall_mem_singleton.mpr ⟨e, rfl⟩⟩
    · intro r hr
      obtain ⟨ev, hform, hdated, hhas⟩ := h.events r hr
      exact ⟨ev, hform, hdated, (insertEntity_of_ok hok).1.hasEntity hhas⟩

theorem Legible.insertEntities (h : s.Legible) (batch : List Entity) :
    (s.insertEntities batch).2.Legible := by
  induction batch generalizing s with
  | nil => exact h
  | cons e rest ih =>
      unfold RelationalStore.insertEntities
      split
      · exact h
      · rename_i id s₁ hone
        exact ih (h.insertEntity hone)

theorem Legible.saveEntities (h : s.Legible) (batch : List Entity) :
    (s.saveEntities batch).2.Legible := by
  have hinserted := h.insertEntities batch
  unfold RelationalStore.saveEntities
  generalize s.insertEntities batch = inserted at hinserted ⊢
  obtain ⟨answer, s₁⟩ := inserted
  cases answer with
  | ok ids => exact hinserted
  | error e => exact ⟨h.ascending, h.entities, h.events, h.counts, h.testCases⟩

theorem Legible.logged (h : s.Legible) {batch : List Event} (hlogged : s.Logged batch s')
    (hdated : ∀ e ∈ batch, e.timestamp.OnCalendar) : s'.Legible := by
  obtain ⟨added, hrows, hsame⟩ := hlogged.events
  have hhas : s'.hasEntity = s.hasEntity := by
    unfold hasEntity
    rw [hlogged.entities]
  refine ⟨hlogged.entities ▸ h.ascending, hlogged.entities ▸ h.entities, ?_,
    hlogged.counts ▸ h.counts, hlogged.testCases ▸ h.testCases⟩
  rw [hrows, hhas]
  refine List.forall_mem_append.mpr ⟨h.events, fun r hr => ?_⟩
  have hmem : r.unnumbered ∈ batch.map (EventRow.ofEvent 0) := hsame ▸ List.mem_map_of_mem hr
  obtain ⟨e, he, hform⟩ := List.mem_map.mp hmem
  refine ⟨e, ?_, hdated e he, (hlogged.known e he).2⟩
  have hnumbered := congrArg (fun row : EventRow => { row with id := r.id }) hform
  exact hnumbered.symm

theorem Legible.sampled (h : s.Legible) {batch : List CountSample} (hsampled : s.Sampled batch s')
    (hfit : ∀ c ∈ batch, c.timestamp.OnCalendar ∧ ∀ n ∈ c.tally.toList, n < Word.bound 32) :
    s'.Legible := by
  obtain ⟨added, hrows, hsame⟩ := hsampled.counts
  have hhas : s'.hasEntity = s.hasEntity := by
    unfold hasEntity
    rw [hsampled.entities]
  refine ⟨hsampled.entities ▸ h.ascending, hsampled.entities ▸ h.entities, ?_, ?_,
    hsampled.testCases ▸ h.testCases⟩
  · rw [hsampled.events, hhas]
    exact h.events
  · rw [hrows]
    refine List.forall_mem_append.mpr ⟨h.counts, fun r hr => ?_⟩
    have hmem : r.unnumbered ∈ batch.map (CountRow.ofSample 0) := hsame ▸ List.mem_map_of_mem hr
    obtain ⟨c, hc, hform⟩ := List.mem_map.mp hmem
    exact ⟨c, hform.symm, hfit c hc⟩

theorem Legible.createTestCase (h : s.Legible) {tc : TestCase} {id : TestCaseId}
    (hok : s.createTestCase tc = .ok (id, s')) : s'.Legible := by
  obtain ⟨id', -, hdone⟩ := bind_of_ok hok
  cases hdone
  refine ⟨h.ascending, h.entities, h.events, h.counts, ?_⟩
  exact List.forall_mem_append.mpr ⟨h.testCases, List.forall_mem_singleton.mpr ⟨_, rfl⟩⟩

theorem Legible.finishTestCase (h : s.Legible) {id : TestCaseId} {success : Bool} {now : Instant}
    (hok : s.finishTestCase id success now = .ok s') : s'.Legible := by
  obtain ⟨-, rfl⟩ := finishTestCase_of_ok hok
  refine ⟨h.ascending, h.entities, h.events, h.counts, List.forall_mem_map.mpr fun r hr => ?_⟩
  split
  · exact legible_closedRow (h.testCases r hr) now success
  · exact h.testCases r hr

/-- What is written goes well, or it changes no table. -/
theorem Legible.run (h : s.Legible) {w : StoreWrite} (hw : w.InRange) :
    (w.run.perform s).2.Legible := by
  cases w with
  | saveEntities batch => exact h.saveEntities batch
  | saveEvents batch =>
      rw [StoreWrite.run, StoreM.perform_map]
      exact StoreM.after_change (fun _ hok => h.logged (saveEvents_of_ok hok) hw) fun _ _ => h
  | saveCounts batch =>
      rw [StoreWrite.run, StoreM.perform_map]
      exact StoreM.after_change (fun _ hok => h.sampled (saveCounts_of_ok hok) hw) fun _ _ => h
  | createTestCase tc =>
      rw [StoreWrite.run, StoreM.perform_map]
      exact StoreM.after_writing (fun _ _ hok => h.createTestCase hok) fun _ _ => h
  | finishTestCase id success now =>
      rw [StoreWrite.run, StoreM.perform_map]
      exact StoreM.after_change (fun _ hok => h.finishTestCase hok) fun _ _ => h

/-- Reading leaves the store as it is. -/
theorem after_read (s : RelationalStore) (r : StoreRead) : StoreCall.after s (.read r) = s := by
  show (r.run.perform s).2 = s
  cases r <;> rw [StoreRead.run, StoreM.perform_map] <;> rfl

theorem Legible.afterAll (h : s.Legible) {calls : List StoreCall} (hcalls : ∀ c ∈ calls, c.InRange) :
    (StoreCall.afterAll s calls).Legible := by
  refine List.foldlRecOn calls StoreCall.after h fun s h c hc => ?_
  cases c with
  | write w => exact h.run (hcalls _ hc)
  | read r => exact (after_read s r).symm ▸ h

/-! ## Reading -/

theorem Legible.read_entity (h : s.Legible) {r : EntityRow} (hr : r ∈ s.entities.rows) :
    r.read = .ok r.entity ∧ r.entity.id = r.id ∧ r.testCase = .integer r.entity.testCase := by
  obtain ⟨x, hx⟩ := h.entities r hr
  have hread : r.read = .ok { x with id := r.id } := by
    rw [hx]
    exact EntityRow.read_ofEntity _ x
  have hentity : r.entity = { x with id := r.id } := by
    unfold EntityRow.entity
    rw [hread]
  rw [hentity]
  exact ⟨hread, rfl, congrArg EntityRow.testCase hx⟩

theorem Legible.read_event (h : s.Legible) {r : EventRow} (hr : r ∈ s.events.rows) :
    r.read = .ok r.event ∧ r.testCase = .integer r.event.testCase ∧
      s.hasEntity r.event.entity = true := by
  obtain ⟨e, he, hdated, hhas⟩ := h.events r hr
  have hread : r.read = .ok { e with id := some r.id, timestamp := e.timestamp.rounded } := by
    rw [he]
    exact EventRow.read_ofEvent _ hdated
  have hevent : r.event = { e with id := some r.id, timestamp := e.timestamp.rounded } := by
    unfold EventRow.event
    rw [hread]
  rw [hevent]
  exact ⟨hread, congrArg EventRow.testCase he, hhas⟩

theorem Legible.read_count (h : s.Legible) {r : CountRow} (hr : r ∈ s.counts.rows) :
    r.read = .ok r.sample := by
  obtain ⟨c, hform, hdated, hfit⟩ := h.counts r hr
  have hread := CountRow.read_of_unnumbered hform hdated hfit
  unfold CountRow.sample
  rw [hread]

/-- Rows that can be read one by one can be read as a whole. -/
theorem mapM_read {ρ α : Type} {read : ρ → Except StoreError α} {f : ρ → α} {rows : List ρ}
    (h : ∀ r ∈ rows, read r = .ok (f r)) : rows.mapM read = .ok (rows.map f) := by
  have hmapM := mapM_map_eq_ok (f := read) (g := fun r => r) (h := f) h
  rw [List.map_id'] at hmapM
  exact hmapM

theorem Legible.answers (h : s.Legible) :
    Answers s (s.entities.rows.map EntityRow.entity) (s.events.rows.map EventRow.event) where
  own id := by
    have hcase : s.entities.rows.filter (fun r => r.testCase == .integer id) =
        s.entities.rows.filter ((fun x : Entity => x.testCase == id) ∘ EntityRow.entity) := by
      refine List.filter_congr fun r hr => ?_
      rw [(h.read_entity hr).2.2, Cell.integer_beq, Function.comp_apply]
    have hread : s.entitiesOf id = .ok _ :=
      mapM_read fun r hr => (h.read_entity (List.mem_filter.mp hr).1).1
    rw [hcase, ← List.filter_map] at hread
    exact congrArg (·, s) hread
  events id := by
    have hcase : s.events.rows.filter (fun r => r.testCase == .integer id) =
        s.events.rows.filter ((fun e : Event => e.testCase == id) ∘ EventRow.event) := by
      refine List.filter_congr fun r hr => ?_
      rw [(h.read_event hr).2.1, Cell.integer_beq, Function.comp_apply]
    have hread : s.eventsOf id = .ok _ :=
      mapM_read fun r hr => (h.read_event (List.mem_filter.mp hr).1).1
    rw [hcase, ← List.filter_map] at hread
    exact congrArg (·, s) hread
  byId ids hids := by
    have hfound := perm_of_found (h.ascending.imp Int.ne_of_lt) hids
    have hread : s.entitiesById ids = .ok _ := mapM_read fun r hr =>
      (h.read_entity (List.mem_filter.mp (hfound.mem_iff.mp hr)).1).1
    refine ⟨_, congrArg (·, s) hread, (hfound.map EntityRow.entity).trans (List.Perm.of_eq ?_)⟩
    rw [List.filter_map]
    refine congrArg _ (List.filter_congr fun r hr => ?_)
    rw [Function.comp_apply, (h.read_entity hr).2.1]
  counts id := by
    have hread : s.countsOf id = .ok _ := mapM_read fun r hr =>
      h.read_count (List.mem_filter.mp ((List.mergeSort_perm _ _).mem_iff.mp hr)).1
    exact ⟨_, congrArg (·, s) hread⟩
  testCase id := by
    have hread : ∃ tc, s.testCase id = .ok tc := by
      unfold RelationalStore.testCase
      split
      · rename_i r hfind
        obtain ⟨tc, htc⟩ := h.testCases r (List.mem_of_find?_eq_some hfind)
        exact ⟨some tc, congrArg _ htc⟩
      · exact ⟨none, rfl⟩
    obtain ⟨tc, htc⟩ := hread
    exact ⟨tc, congrArg (·, s) htc⟩
  ascending := by
    have hids : (s.entities.rows.map EntityRow.entity).map (·.id) =
        s.entities.rows.map EntityRow.id := by
      rw [List.map_map]
      exact List.map_congr_left fun r hr => (h.read_entity hr).2.1
    rw [hids]
    exact h.ascending
  known := by
    refine List.forall_mem_map.mpr fun r hr => ?_
    obtain ⟨row, hrow, hid⟩ := hasEntity_iff.mp (h.read_event hr).2.2
    exact List.mem_map.mpr ⟨row.entity, List.mem_map_of_mem hrow, (h.read_entity hrow).2.1.trans hid⟩

end RelationalStore

end StorageLifecycle
