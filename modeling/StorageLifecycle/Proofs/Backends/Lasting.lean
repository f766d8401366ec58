import StorageLifecycle.Proofs.Backends.Ascending
import StorageLifecycle.Proofs.Backends.Rows
import StorageLifecycle.Proofs.Store.Transactions

/-!
# What lasts in a relational store

An entity that is the same as none before it is given a row of its own, from which it is read ever after. A
test case keeps the row under which it was created; all that changes of it is how and when it was closed
last.
-/

namespace StorageLifecycle

open Relational

namespace RelationalStore

variable {s s' : RelationalStore}

/-! ## Entities -/

/-- A batch that is accepted gives an id to each of its entities, in turn. -/
theorem insertEntities_at {earlier later : List Entity} {e : Entity} {ids : List EntityId}
    (h : s.insertEntities (earlier ++ e :: later) = (.ok ids, s')) :
    ∃ id s₂, ids[earlier.length]? = some id ∧
      (s.insertEntities earlier).2.insertEntity e = .ok (id, s₂) ∧ s₂.Widened s' := by
  induction earlier generalizing s ids with
  | nil =>
      rw [List.nil_append, insertEntities] at h
      cases hone : s.insertEntity e with
      | error err =>
          rw [hone] at h
          cases congrArg Prod.fst h
      | ok p =>
          obtain ⟨id, s₂⟩ := p
          rw [hone] at h
          have hlater := insertEntities_widened (s := s₂) later
          dsimp only at h
          generalize s₂.insertEntities later = rest at h hlater
          obtain ⟨answer, s₃⟩ := rest
          cases answer with
          | error err => cases congrArg Prod.fst h
          | ok more =>
              cases h
              exact ⟨id, s₂, rfl, hone, hlater⟩
  | cons x earlier ih =>
      rw [List.cons_append, insertEntities] at h
      unfold insertEntities
      cases hone : s.insertEntity x with
      | error err =>
          rw [hone] at h
          cases congrArg Prod.fst h
      | ok p =>
          obtain ⟨id, s₂⟩ := p
          rw [hone] at h
          dsimp only at h ⊢
          cases hrest : s₂.insertEntities (earlier ++ e :: later) with
          | mk answer s₃ =>
              rw [hrest] at h
              cases answer with
              | error err => cases congrArg Prod.fst h
              | ok more =>
                  cases h
                  exact ih hrest

/-- The rows after a batch are those before it and rows of its entities. -/
theorem insertEntities_rows (batch : List Entity) :
    ∀ r ∈ (s.insertEntities batch).2.entities.rows,
      r ∈ s.entities.rows ∨ ∃ x ∈ batch, r = .ofEntity r.id x := by
  obtain ⟨added, hrows, hforms⟩ := insertEntities_added (s := s) batch
  intro r hr
  rw [hrows] at hr
  exact (List.mem_append.mp hr).imp_right (hforms r)

theorem findExisting_eq_none {e : Entity}
    (h : ∀ r ∈ s.entities.rows, ∃ x, r = .ofEntity r.id x ∧ x.sameAs e = false) :
    s.findExisting e = none := by
  have hnone : ∀ r ∈ s.entities.rows, keyMatches e r = false ∧ uidMatches e r = false := by
    intro r hr
    obtain ⟨x, hform, hsame⟩ := h r hr
    rw [hform, keyMatches_ofEntity, uidMatches_ofEntity]
    exact Bool.or_eq_false_iff.mp hsame
  unfold findExisting
  rw [List.find?_eq_none.mpr fun r hr => ne_true_of_eq_false (hnone r hr).1,
    List.find?_eq_none.mpr fun r hr => ne_true_of_eq_false (hnone r hr).2]
  rfl

/-- An entity that is the same as none of those before it is given a row of its own. -/
theorem Legible.row_of_new (h : s.Legible) {earlier later : List Entity} {e : Entity} {ids : List EntityId}
    (hok : s.saveEntities (earlier ++ e :: later) = (.ok ids, s'))
    (hnew : ∀ x ∈ reading.entities s ++ earlier, x.sameAs e = false) :
    ∃ id, ids[earlier.length]? = some id ∧ EntityRow.ofEntity id e ∈ s'.entities.rows := by
  have hinserted : s.insertEntities (earlier ++ e :: later) = (.ok ids, s') := by
    unfold RelationalStore.saveEntities at hok
    split at hok
    · rename_i hinserted
      rw [hinserted]
      exact hok
    · exact nomatch congrArg Prod.fst hok
  obtain ⟨id, s₂, hid, hone, hwidened⟩ := insertEntities_at hinserted
  obtain ⟨hstored, hearlier⟩ := List.forall_mem_append.mp hnew
  have hnone : (s.insertEntities earlier).2.findExisting e = none := by
    refine findExisting_eq_none fun r hr => ?_
    rcases insertEntities_rows earlier r hr with hr | ⟨x, hx, hform⟩
    · obtain ⟨x, hform⟩ := h.entities r hr
      have hentity : r.entity = { x with id := r.id } := by
        unfold EntityRow.entity
        rw [hform, EntityRow.read_ofEntity]
        rfl
      have hsame := hstored r.entity (List.mem_map_of_mem hr)
      rw [hentity] at hsame
      exact ⟨x, hform, hsame⟩
    · exact ⟨x, hform, hearlier x hx⟩
  refine ⟨id, hid, hwidened.entities.mem ?_⟩
  rcases insertEntity_cases hone with ⟨next, hfind, -, -⟩ | ⟨-, -, -, rfl⟩
  · exact nomatch hnone.symm.trans hfind
  · exact List.mem_append_right _ (List.mem_singleton.mpr rfl)

/-- The row of an entity is read as this entity, by its id and by its test case. -/
theorem Legible.read_row (h : s.Legible) {id : EntityId} {e : Entity}
    (hr : EntityRow.ofEntity id e ∈ s.entities.rows) :
    s.entitiesById [id] = .ok [{ e with id }] ∧
      ∃ xs, s.entitiesOf e.testCase = .ok xs ∧ { e with id } ∈ xs := by
  have hread := EntityRow.read_ofEntity id e
  have hentity : (EntityRow.ofEntity id e).entity = { e with id } := by
    unfold EntityRow.entity
    rw [hread]
  have hfind : (s.entities.rows.find? fun r => r.id == id) = some (.ofEntity id e) :=
    find?_of_unique hr (beq_self_eq_true _) fun r hr' hid =>
      List.inj_on_of_nodup_map (h.ascending.imp Int.ne_of_lt) hr' hr (eq_of_beq hid)
  constructor
  · unfold entitiesById
    rw [List.filterMap_cons, hfind]
    show [EntityRow.ofEntity id e].mapM EntityRow.read = _
    rw [List.mapM_cons, hread]
    rfl
  · refine ⟨_, congrArg Prod.fst (h.answers.own e.testCase), List.mem_filter.mpr ⟨?_, beq_self_eq_true _⟩⟩
    exact hentity ▸ List.mem_map_of_mem hr

/-! ## Test cases -/

/-- How and when a test case is closed last, given how it is closed before a write. -/
def endAfter (id : TestCaseId) (last : Option (Bool × Instant)) : StoreWrite → Option (Bool × Instant)
  | .finishTestCase i success now => if i = id then some (success, now) else last
  | _ => last

/-- How and when a test case is closed last, if it is. -/
def lastEnd (id : TestCaseId) (last : Option (Bool × Instant)) : List StoreCall → Option (Bool × Instant)
  | [] => last
  | .write w :: rest => lastEnd id (endAfter id last w) rest
  | .read _ :: rest => lastEnd id last rest

/-- The row of a test case with its last end. -/
def endedRow (id : TestCaseId) (tc : TestCase) : Option (Bool × Instant) → TestCaseRow
  | none => .ofTestCase id tc
  | some (success, now) => closedRow now success (.ofTestCase id tc)

theorem read_endedRow (id : TestCaseId) {tc : TestCase} (last : Option (Bool × Instant))
    (hstarted : tc.startedAt.OnCalendar) :
    (endedRow id tc last).read = .ok ⟨id, tc.name, tc.runName, tc.startedAt.rounded,
      last.bind fun x => moment? x.2.micros, last.map Prod.fst⟩ := by
  have hmoment : (moment? tc.startedAt.micros).getD .epoch = tc.startedAt.rounded := by
    rw [moment?_micros hstarted]
    rfl
  rw [← hmoment]
  cases last with
  | none => rfl
  | some x =>
      obtain ⟨success, now⟩ := x
      cases success <;> rfl

theorem endedRow_id (id : TestCaseId) (tc : TestCase) (last : Option (Bool × Instant)) :
    (endedRow id tc last).id = id := by
  cases last <;> rfl

theorem closedRow_endedRow (now : Instant) (success : Bool) (id : TestCaseId) (tc : TestCase)
    (last : Option (Bool × Instant)) :
    closedRow now success (endedRow id tc last) = endedRow id tc (some (success, now)) := by
  cases last <;> rfl

/-- Does the store have the test case, with its last end? -/
def HasEnded (id : TestCaseId) (tc : TestCase) (last : Option (Bool × Instant)) (s : RelationalStore) :
    Prop :=
  (s.testCases.rows.find? fun r => r.id == id) = some (endedRow id tc last)

theorem HasEnded.wrote {id : TestCaseId} {tc : TestCase} {last : Option (Bool × Instant)}
    (h : s.HasEnded id tc last) {w : StoreWrite} (hw : s.Wrote w s') :
    s'.HasEnded id tc (endAfter id last w) := by
  have hother : s'.testCases = s.testCases → s'.HasEnded id tc last := fun hsame => by
    unfold HasEnded
    rw [hsame]
    exact h
  cases hw with
  | @refused w hrefused =>
      cases w with
      | finishTestCase i success now =>
          have hne : i ≠ id := by
            rintro rfl
            have hhas : s.hasTestCase i = true :=
              hasTestCase_iff.mpr ⟨_, List.mem_of_find?_eq_some h, endedRow_id i tc last⟩
            obtain ⟨e, herror⟩ := hrefused
            exact nomatch herror.symm.trans (if_pos hhas)
          rw [endAfter, if_neg hne]
          exact h
      | _ => exact h
  | entities hwidened => exact hother hwidened.testCases
  | events hok => exact hother (saveEvents_of_ok hok).testCases
  | counts hok => exact hother (saveCounts_of_ok hok).testCases
  | created _ =>
      unfold HasEnded
      show (s.testCases.rows ++ [_]).find? _ = _
      rw [List.find?_append, h]
      rfl
  | @finished i success now =>
      have hkeeps : (fun r : TestCaseRow => r.id == id) ∘
          (fun r => if r.id = i then closedRow now success r else r) = fun r => r.id == id := by
        funext r
        rw [Function.comp_apply]
        split <;> rfl
      unfold HasEnded
      show (s.testCases.rows.map _).find? _ = _
      rw [List.find?_map, hkeeps, h, Option.map_some, endedRow_id, closedRow_endedRow, endAfter]
      by_cases hi : id = i
      · rw [if_pos hi, if_pos hi.symm]
      · rw [if_neg hi, if_neg (Ne.symm hi)]

theorem HasEnded.afterAll {id : TestCaseId} {tc : TestCase} {last : Option (Bool × Instant)}
    (h : s.HasEnded id tc last) (calls : List StoreCall) :
    (StoreCall.afterAll s calls).HasEnded id tc (lastEnd id last calls) := by
  induction calls generalizing s last with
  | nil => exact h
  | cons c rest ih =>
      cases c with
      | write w => exact ih (h.wrote (s.run_wrote w))
      | read r => exact ih ((after_read s r).symm ▸ h)

/-- A test case that was created is stored, and it is open. -/
theorem hasEnded_of_created {tc : TestCase} {id : TestCaseId}
    (hok : s.createTestCase tc = .ok (id, s')) : s'.HasEnded id tc none := by
  obtain ⟨id', hid, hdone⟩ := bind_of_ok hok
  cases hdone
  have hnone : (s.testCases.rows.find? fun r => r.id == id) = none := by
    refine List.find?_eq_none.mpr fun r hr heq => ?_
    exact Int.ne_of_lt (Table.lt_next hid r hr) (eq_of_beq heq)
  show (s.testCases.rows ++ [_]).find? _ = _
  rw [List.find?_append, hnone, Option.none_or, List.find?_singleton]
  exact if_pos (beq_self_eq_true _)

theorem HasEnded.testCase {id : TestCaseId} {tc : TestCase} {last : Option (Bool × Instant)}
    (h : s.HasEnded id tc last) (hstarted : tc.startedAt.OnCalendar) :
    s.testCase id = .ok (some ⟨id, tc.name, tc.runName, tc.startedAt.rounded,
      last.bind fun x => moment? x.2.micros, last.map Prod.fst⟩) := by
  have hrow : (s.testCases.rows.find? fun r => r.id == id) = some (endedRow id tc last) := h
  unfold RelationalStore.testCase
  rw [hrow]
  dsimp only
  rw [read_endedRow id last hstarted]
  rfl

end RelationalStore

end StorageLifecycle
