import Mathlib.Data.List.Nodup
import StorageLifecycle.Proofs.Store.Basic
import StorageLifecycle.Store.Relational

/-!
# Laws of the relational store

One law for each kind of write says which tables it changes and how. Rows are only ever added, an id is
above all that are in use, an entity that is saved has a row afterwards, and an event that is saved
belongs to a test case and to an entity that are there.
-/

namespace StorageLifecycle

namespace Relational

/-- The greatest of numbers is at least each of them. -/
theorem le_foldl_max (l : List Int) (init : Int) :
    init ≤ l.foldl max init ∧ ∀ i ∈ l, i ≤ l.foldl max init := by
  induction l generalizing init with
  | nil => exact ⟨Int.le_refl _, fun _ h => nomatch h⟩
  | cons j rest ih =>
      obtain ⟨hinit, hrest⟩ := ih (max init j)
      refine ⟨Int.le_trans (Int.le_max_left _ _) hinit, ?_⟩
      intro i hi
      rcases List.mem_cons.mp hi with rfl | hi
      · exact Int.le_trans (Int.le_max_right _ _) hinit
      · exact hrest i hi

/-- The next id of a table is above all that are in use. -/
theorem Table.lt_next {ρ : Type} {t : Table ρ} {idOf : ρ → Int} {id : Int}
    (h : t.next idOf = .ok id) : ∀ r ∈ t.rows, idOf r < id := by
  intro r hr
  unfold Table.next at h
  dsimp only at h
  split at h
  · cases h
    exact Int.lt_add_one_of_le ((le_foldl_max _ _).2 _ (List.mem_map_of_mem hr))
  · exact nomatch h

/-- A row put under the next id of a table keeps the ids different. -/
theorem Table.nodup_push {ρ : Type} {t : Table ρ} {idOf : ρ → Int} {id : Int} {row : ρ}
    (h : t.next idOf = .ok id) (hrow : idOf row = id) (hnodup : (t.rows.map idOf).Nodup) :
    ((t.push id row).rows.map idOf).Nodup := by
  show ((t.rows ++ [row]).map idOf).Nodup
  rw [List.map_append, List.nodup_append]
  refine ⟨hnodup, List.nodup_singleton _, ?_⟩
  intro i hi j hj heq
  obtain ⟨r, hr, rfl⟩ := List.mem_map.mp hi
  rw [List.map_singleton, List.mem_singleton, hrow] at hj
  exact Int.ne_of_lt (Table.lt_next h r hr) (heq.trans hj)

/-- A row put under the next id of a table keeps the ids ascending. -/
theorem Table.ascending_push {ρ : Type} {t : Table ρ} {idOf : ρ → Int} {id : Int} {row : ρ}
    (h : t.next idOf = .ok id) (hrow : idOf row = id) (hasc : (t.rows.map idOf).Pairwise (· < ·)) :
    ((t.push id row).rows.map idOf).Pairwise (· < ·) := by
  show ((t.rows ++ [row]).map idOf).Pairwise (· < ·)
  rw [List.map_append, List.pairwise_append]
  refine ⟨hasc, List.pairwise_singleton _ _, ?_⟩
  refine List.forall_mem_map.mpr fun r hr => List.forall_mem_singleton.mpr ?_
  exact hrow ▸ Table.lt_next h r hr

/-- The row without its number. -/
def EventRow.unnumbered (r : EventRow) : EventRow := { r with id := 0 }

/-- The row without its number. -/
def CountRow.unnumbered (r : CountRow) : CountRow := { r with id := 0 }

end Relational

namespace RelationalStore

open Relational

variable {s s' s'' : RelationalStore}

theorem hasTestCase_iff {id : Int} :
    s.hasTestCase id = true ↔ ∃ r ∈ s.testCases.rows, r.id = id := by
  simp [hasTestCase]

theorem hasEntity_iff {id : Int} : s.hasEntity id = true ↔ ∃ r ∈ s.entities.rows, r.id = id := by
  simp [hasEntity]

/-! ## Entities -/

/-- Rows of entities may have been added, with new ids; nothing else has changed but counters. -/
structure Widened (s s' : RelationalStore) : Prop where
  testCases : s'.testCases = s.testCases
  events : s'.events = s.events
  counts : s'.counts = s.counts
  entities : s.entities.rows <+: s'.entities.rows
  nodup : (s.entities.rows.map EntityRow.id).Nodup → (s'.entities.rows.map EntityRow.id).Nodup

theorem Widened.refl (s : RelationalStore) : s.Widened s :=
  ⟨rfl, rfl, rfl, List.prefix_refl _, id⟩

theorem Widened.trans (h : s.Widened s') (h' : s'.Widened s'') : s.Widened s'' where
  testCases := h'.testCases.trans h.testCases
  events := h'.events.trans h.events
  counts := h'.counts.trans h.counts
  entities := h.entities.trans h'.entities
  nodup hnodup := h'.nodup (h.nodup hnodup)

theorem Widened.hasEntity (h : s.Widened s') {id : Int} (hid : s.hasEntity id = true) :
    s'.hasEntity id = true := by
  obtain ⟨r, hr, heq⟩ := hasEntity_iff.mp hid
  exact hasEntity_iff.mpr ⟨r, h.entities.mem hr, heq⟩

theorem Widened.hasTestCase (h : s.Widened s') (id : Int) : s'.hasTestCase id = s.hasTestCase id := by
  unfold RelationalStore.hasTestCase
  rw [h.testCases]

theorem conflicts_iff {e : Entity} {r : EntityRow} :
    conflicts e r = true ↔ keyMatches e r = true ∨ uidMatches e r = true := by
  rw [conflicts, Bool.or_eq_true]

/-- What is found is a row that the entity conflicts with. -/
theorem conflict_of_findExisting {e : Entity} {id : EntityId} (h : s.findExisting e = some id) :
    ∃ r ∈ s.entities.rows, conflicts e r = true ∧ r.id = id := by
  unfold findExisting at h
  split at h
  · rename_i r hr
    cases h
    exact ⟨r, List.mem_of_find?_eq_some hr, conflicts_iff.mpr (.inl (List.find?_some hr)), rfl⟩
  · obtain ⟨r, hr, rfl⟩ := Option.map_eq_some_iff.mp h
    exact ⟨r, List.mem_of_find?_eq_some hr, conflicts_iff.mpr (.inr (List.find?_some hr)), rfl⟩

/-- An existing row is a row. -/
theorem hasEntity_of_findExisting {e : Entity} {id : EntityId} (h : s.findExisting e = some id) :
    s.hasEntity id = true := by
  obtain ⟨r, hr, -, hid⟩ := conflict_of_findExisting h
  exact hasEntity_iff.mpr ⟨r, hr, hid⟩

/-- A row that the entity conflicts with is looked up with success. -/
theorem findExisting_of_conflict {e : Entity} (h : s.entities.rows.any (conflicts e) = true) :
    ∃ id, s.findExisting e = some id := by
  obtain ⟨r, hr, hconflict⟩ := List.any_eq_true.mp h
  unfold findExisting
  cases hkey : s.entities.rows.find? (keyMatches e) with
  | some r' => exact ⟨r'.id, rfl⟩
  | none =>
      have hnot : ¬ keyMatches e r = true := List.find?_eq_none.mp hkey r hr
      have huid : uidMatches e r = true := (conflicts_iff.mp hconflict).resolve_left hnot
      cases hfind : s.entities.rows.find? (uidMatches e) with
      | some r' => exact ⟨r'.id, rfl⟩
      | none => exact absurd huid (List.find?_eq_none.mp hfind r hr)

theorem findExisting_eq_none_iff {e : Entity} :
    s.findExisting e = none ↔ s.entities.rows.any (conflicts e) = false := by
  rw [← Bool.not_eq_true]
  constructor
  · intro hnone hany
    obtain ⟨id, hfind⟩ := findExisting_of_conflict hany
    exact nomatch hnone.symm.trans hfind
  · intro hfree
    cases hfind : s.findExisting e with
    | none => rfl
    | some id =>
        obtain ⟨r, hr, hconflict, -⟩ := conflict_of_findExisting hfind
        exact absurd (List.any_eq_true.mpr ⟨r, hr, hconflict⟩) hfree

/-- No entity is saved without an id for its row, also none that would get the id of another row. -/
theorem insertEntity_of_full {err : StoreError} (hnext : s.entities.next EntityRow.id = .error err)
    (e : Entity) : s.insertEntity e = .error err := by
  unfold insertEntity insertOrIgnore
  rw [hnext]
  rfl

/-- An entity that conflicts with a row uses up an id, and gets the id of such a row. -/
theorem insertEntity_of_existing {e : Entity} {next : Int} {id : EntityId}
    (hnext : s.entities.next EntityRow.id = .ok next) (hfind : s.findExisting e = some id) :
    s.insertEntity e =
      .ok (id, { s with entities := s.entities.skip next, resolved := s.resolved + 1 }) := by
  have hany : s.entities.rows.any (conflicts e) = true := by
    rw [← Bool.not_eq_false, ← findExisting_eq_none_iff, hfind]
    simp
  have hlooked : findExisting { s with entities := s.entities.skip next } e = some id := hfind
  unfold insertEntity insertOrIgnore
  simp only [hnext, ok_bind, hany, if_true, pure, Except.pure, hlooked]

/-- An entity that conflicts with no row is inserted if its test case is there. -/
theorem insertEntity_of_new {e : Entity} {next : Int}
    (hnext : s.entities.next EntityRow.id = .ok next) (hfind : s.findExisting e = none) :
    s.insertEntity e = if s.hasTestCase e.testCase then
      .ok (next, { s with entities := s.entities.push next (.ofEntity next e) })
    else .error (.query foreignKeyText) := by
  have hany := findExisting_eq_none_iff.mp hfind
  unfold insertEntity insertOrIgnore
  simp only [hnext, ok_bind, hany, Bool.false_eq_true, if_false]
  split <;> rfl

/-- Saving an entity uses up an id. It finds a row, or it adds one under this id for a test case that is
there. -/
theorem insertEntity_cases {e : Entity} {id : EntityId} (h : s.insertEntity e = .ok (id, s')) :
    (∃ next, s.findExisting e = some id ∧ s.entities.next EntityRow.id = .ok next ∧
      s' = { s with entities := s.entities.skip next, resolved := s.resolved + 1 }) ∨
    s.findExisting e = none ∧ s.hasTestCase e.testCase = true ∧
      s.entities.next EntityRow.id = .ok id ∧
      s' = { s with entities := s.entities.push id (.ofEntity id e) } := by
  cases hnext : s.entities.next EntityRow.id with
  | error err => exact nomatch h.symm.trans (insertEntity_of_full hnext e)
  | ok next =>
      cases hfind : s.findExisting e with
      | some existing =>
          rw [insertEntity_of_existing hnext hfind] at h
          cases h
          exact .inl ⟨next, rfl, rfl, rfl⟩
      | none =>
          rw [insertEntity_of_new hnext hfind] at h
          split at h
          · rename_i hcase
            cases h
            exact .inr ⟨rfl, hcase, rfl, rfl⟩
          · exact nomatch h

/-- An entity is refused for want of an id, or because it would be inserted and its test case is not
there. -/
theorem insertEntity_of_error {e : Entity} {err : StoreError} (h : s.insertEntity e = .error err) :
    s.entities.next EntityRow.id = .error err ∨
      s.findExisting e = none ∧ s.hasTestCase e.testCase = false ∧ err = .query foreignKeyText := by
  cases hnext : s.entities.next EntityRow.id with
  | error err' =>
      rw [insertEntity_of_full hnext] at h
      exact .inl (congrArg _ (Except.error.inj h))
  | ok next =>
      cases hfind : s.findExisting e with
      | some id => exact nomatch h.symm.trans (insertEntity_of_existing hnext hfind)
      | none =>
          rw [insertEntity_of_new hnext hfind] at h
          split at h
          · exact nomatch h
          · rename_i hcase
            cases h
            exact .inr ⟨rfl, Bool.eq_false_iff.mpr hcase, rfl⟩

/-- Saving an entity uses up an id, and gives the row that is the same or adds one. -/
theorem insertEntity_of_ok {e : Entity} {id : EntityId} (h : s.insertEntity e = .ok (id, s')) :
    s.Widened s' ∧ s'.hasEntity id = true := by
  rcases insertEntity_cases h with ⟨next, hfind, -, rfl⟩ | ⟨-, -, hnext, rfl⟩
  · exact ⟨⟨rfl, rfl, rfl, List.prefix_refl _, fun hnodup => hnodup⟩, hasEntity_of_findExisting hfind⟩
  · refine ⟨⟨rfl, rfl, rfl, List.prefix_append _ _, Table.nodup_push hnext rfl⟩, ?_⟩
    refine hasEntity_iff.mpr ⟨.ofEntity id e, ?_, rfl⟩
    exact List.mem_append_right _ (List.mem_singleton.mpr rfl)

theorem insertEntities_widened (batch : List Entity) : s.Widened (s.insertEntities batch).2 := by
  induction batch generalizing s with
  | nil => exact Widened.refl s
  | cons e rest ih =>
      unfold insertEntities
      split
      · exact Widened.refl s
      · rename_i id s₁ hone
        exact (insertEntity_of_ok hone).1.trans ih

/-- Whether a batch of entities is taken or refused, rows of entities may be added, and that is all. -/
theorem saveEntities_widened (batch : List Entity) : s.Widened (s.saveEntities batch).2 := by
  have hinserted := insertEntities_widened (s := s) batch
  unfold saveEntities
  generalize s.insertEntities batch = inserted at hinserted ⊢
  obtain ⟨answer, s₁⟩ := inserted
  cases answer with
  | ok ids => exact hinserted
  | error e => exact ⟨rfl, rfl, rfl, List.prefix_refl _, fun hnodup => hnodup⟩

/-- A single entity that was saved has a row. -/
theorem saveEntities_of_ok {e : Entity} {ids : List EntityId}
    (h : s.saveEntities [e] = (.ok ids, s')) : s'.hasEntity (ids.headD 0) = true := by
  unfold saveEntities insertEntities at h
  cases hone : s.insertEntity e with
  | error err =>
      simp only [hone] at h
      exact nomatch congrArg Prod.fst h
  | ok p =>
      obtain ⟨id, s₁⟩ := p
      simp only [hone, insertEntities] at h
      cases h
      exact (insertEntity_of_ok hone).2

/-! ## Events -/

/-- Rows of events have been added for a batch, each of a test case and an entity that are there;
nothing else has changed. -/
structure Logged (s : RelationalStore) (batch : List Event) (s' : RelationalStore) : Prop where
  testCases : s'.testCases = s.testCases
  entities : s'.entities = s.entities
  counts : s'.counts = s.counts
  events : ∃ added, s'.events.rows = s.events.rows ++ added ∧
    added.map EventRow.unnumbered = batch.map (EventRow.ofEvent 0)
  known : ∀ e ∈ batch, s.hasTestCase e.testCase = true ∧ s.hasEntity e.entity = true

theorem Logged.nil (s : RelationalStore) : s.Logged [] s :=
  ⟨rfl, rfl, rfl, ⟨[], (List.append_nil _).symm, rfl⟩, fun _ h => nomatch h⟩

theorem insertEvent_of_ok {e : Event} (h : s.insertEvent e = .ok s') : s.Logged [e] s' := by
  unfold insertEvent at h
  obtain ⟨id, _, h⟩ := bind_of_ok h
  split at h
  · exact nomatch h
  · split at h
    · rename_i hknown
      cases h
      refine ⟨rfl, rfl, rfl, ⟨[.ofEvent id e], rfl, rfl⟩, ?_⟩
      intro e' he'
      rw [List.mem_singleton.mp he']
      exact Bool.and_eq_true_iff.mp hknown
    · exact nomatch h

theorem Logged.append {batch batch' : List Event} (h : s.Logged batch s')
    (h' : s'.Logged batch' s'') : s.Logged (batch ++ batch') s'' := by
  obtain ⟨added, hadded, hsame⟩ := h.events
  obtain ⟨added', hadded', hsame'⟩ := h'.events
  refine ⟨h'.testCases.trans h.testCases, h'.entities.trans h.entities, h'.counts.trans h.counts,
    ⟨added ++ added', ?_, ?_⟩, ?_⟩
  · rw [hadded', hadded, List.append_assoc]
  · rw [List.map_append, List.map_append, hsame, hsame']
  · intro e he
    rcases List.mem_append.mp he with he | he
    · exact h.known e he
    · have hknown := h'.known e he
      unfold hasTestCase hasEntity at hknown ⊢
      rw [h.testCases, h.entities] at hknown
      exact hknown

theorem saveEvents_of_ok {batch : List Event} (h : s.saveEvents batch = .ok s') :
    s.Logged batch s' := by
  unfold saveEvents at h
  induction batch generalizing s with
  | nil =>
      cases h
      exact Logged.nil _
  | cons e rest ih =>
      rw [List.foldlM_cons] at h
      obtain ⟨s₁, hone, hrest⟩ := bind_of_ok h
      exact (insertEvent_of_ok hone).append (ih hrest)

/-- A batch of events of a test case and of entities that are there is not refused for want of one. -/
theorem insertEvent_ne_notFound {e : Event} (hcase : s.hasTestCase e.testCase = true)
    (hentity : s.hasEntity e.entity = true) (what : String) :
    s.insertEvent e ≠ .error (.notFound what) := by
  unfold insertEvent Table.next
  dsimp only
  split
  · show (if _ then _ else _ : Except StoreError RelationalStore) ≠ _
    split
    · exact fun h => nomatch h
    · rw [if_pos (Bool.and_eq_true_iff.mpr ⟨hcase, hentity⟩)]
      exact fun h => nomatch h
  · exact fun h => nomatch h

theorem saveEvents_ne_notFound {batch : List Event}
    (hknown : ∀ e ∈ batch, s.hasTestCase e.testCase = true ∧ s.hasEntity e.entity = true)
    (what : String) : s.saveEvents batch ≠ .error (.notFound what) := by
  unfold saveEvents
  induction batch generalizing s with
  | nil => exact fun h => nomatch h
  | cons e rest ih =>
      obtain ⟨hcase, hentity⟩ := hknown e List.mem_cons_self
      rw [List.foldlM_cons]
      cases hone : s.insertEvent e with
      | error err =>
          intro h
          cases h
          exact insertEvent_ne_notFound hcase hentity what hone
      | ok s₁ =>
          have hlogged := insertEvent_of_ok hone
          apply ih
          intro e' he'
          have h := hknown e' (List.mem_cons_of_mem _ he')
          unfold hasTestCase hasEntity at h ⊢
          rw [hlogged.testCases, hlogged.entities]
          exact h

/-! ## Samples -/

/-- Rows of samples have been added for a batch; nothing else has changed. -/
structure Sampled (s : RelationalStore) (batch : List CountSample) (s' : RelationalStore) :
    Prop where
  testCases : s'.testCases = s.testCases
  entities : s'.entities = s.entities
  events : s'.events = s.events
  counts : ∃ added, s'.counts.rows = s.counts.rows ++ added ∧
    added.map CountRow.unnumbered = batch.map (CountRow.ofSample 0)

theorem insertCount_of_ok {c : CountSample} (h : s.insertCount c = .ok s') : s.Sampled [c] s' := by
  unfold insertCount at h
  obtain ⟨id, _, h⟩ := bind_of_ok h
  split at h
  · cases h
    exact ⟨rfl, rfl, rfl, [.ofSample id c], rfl, rfl⟩
  · exact nomatch h

theorem saveCounts_of_ok {batch : List CountSample} (h : s.saveCounts batch = .ok s') :
    s.Sampled batch s' := by
  unfold saveCounts at h
  induction batch generalizing s with
  | nil =>
      cases h
      exact ⟨rfl, rfl, rfl, [], (List.append_nil _).symm, rfl⟩
  | cons c rest ih =>
      rw [List.foldlM_cons] at h
      obtain ⟨s₁, hone, hrest⟩ := bind_of_ok h
      have hfirst := insertCount_of_ok hone
      obtain ⟨htests, hentities, hevents, added', hadded', hsame'⟩ := ih hrest
      obtain ⟨added, hadded, hsame⟩ := hfirst.counts
      refine ⟨htests.trans hfirst.testCases, hentities.trans hfirst.entities,
        hevents.trans hfirst.events, added ++ added', ?_, ?_⟩
      · rw [hadded', hadded, List.append_assoc]
      · rw [List.map_append, hsame, hsame']
        rfl

/-- Samples are never refused for want of an entity. -/
theorem saveCounts_ne_notFound (batch : List CountSample) (what : String) :
    s.saveCounts batch ≠ .error (.notFound what) := by
  unfold saveCounts
  induction batch generalizing s with
  | nil => exact fun h => nomatch h
  | cons c rest ih =>
      rw [List.foldlM_cons]
      cases hone : s.insertCount c with
      | error err =>
          intro h
          cases h
          unfold insertCount Table.next at hone
          dsimp only at hone
          split at hone
          · change (if _ then _ else _ : Except StoreError RelationalStore) = _ at hone
            split at hone
            · exact nomatch hone
            · exact nomatch hone
          · exact nomatch hone
      | ok s₁ => exact ih

/-! ## Test cases -/

/-- The row of a test case that is closed at this moment. -/
def closedRow (now : Instant) (success : Bool) (r : TestCaseRow) : TestCaseRow :=
  { r with endedAt := .integer now.micros, success := .integer (if success then 1 else 0) }

/-- Closing changes the row of the test case, and no other table. -/
theorem finishTestCase_of_ok {id : TestCaseId} {success : Bool} {now : Instant}
    (h : s.finishTestCase id success now = .ok s') :
    s.hasTestCase id = true ∧ s' = { s with testCases := { s.testCases with
      rows := s.testCases.rows.map fun r => if r.id = id then closedRow now success r else r } } := by
  unfold finishTestCase at h
  split at h
  · rename_i hhas
    cases h
    exact ⟨hhas, rfl⟩
  · exact nomatch h

end RelationalStore

end StorageLifecycle
