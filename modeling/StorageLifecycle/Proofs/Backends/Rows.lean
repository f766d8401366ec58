import StorageLifecycle.Proofs.Backends.Collecting
import StorageLifecycle.Proofs.Store.Atomicity
import StorageLifecycle.Proofs.Store.Rows

/-!
# The rows of both stores

Both stores can be read, and saving does to their rows what it should: the store in memory keeps rows as
they are given, and the relational store reads them back cell by cell, with moments as whole microseconds.
-/

namespace StorageLifecycle

/-- An entity and itself under another id are the same. -/
theorem Entity.sameAs_withId (e : Entity) (id : EntityId) : ({ e with id } : Entity).sameAs e = true := by
  simp [sameAs]

/-! ## The store in memory -/

namespace MemoryStore

variable {m m' : MemoryStore}

/-- Rows are read as they are. -/
def reading : RowReading MemoryStore := ⟨Regular, (·.entities), (·.events), fun _ => True, fun _ => True, id⟩

theorem Regular.lodged (h : m.Regular) (e : Entity) :
    reading.Lodged m e (.ok [(m.saveEntity e).1]) (m.saveEntity e).2 := by
  have hregular := h.saveEntity e
  have hlog := (saveEntity_events m e).1
  refine ⟨hregular, hlog, fun row => saveEntity_mem e, ?_, ?_⟩ <;> cases hfind : m.findExisting e
  · rw [saveEntity_of_new hfind]
    refine List.forall_mem_append.mpr ⟨fun row => .inl, List.forall_mem_singleton.mpr (.inr rfl)⟩
  · rw [saveEntity_of_existing hfind]
    exact fun row => .inl
  · rw [saveEntity_of_new hfind]
    rintro ids ⟨⟩
    exact ⟨_, List.mem_append_right _ (List.mem_singleton.mpr rfl), rfl, e.sameAs_withId _⟩
  · rw [saveEntity_of_existing hfind]
    rintro ids ⟨⟩
    obtain ⟨row, hrow, rfl⟩ := Option.map_eq_some_iff.mp hfind
    exact ⟨row, List.mem_of_find?_eq_some hrow, rfl,
      List.find?_some (p := fun row : Entity => row.sameAs e) hrow⟩

/-- The events of a batch are added with ids and are otherwise as they were given. -/
theorem saveEvents_unsaved {batch : List Event} (hok : m.saveEvents batch = .ok m') :
    ∃ added, m'.events = m.events ++ added ∧ added.map Event.unsaved = batch.map Event.unsaved := by
  obtain ⟨added, hadded, _⟩ := saveEvents_of_ok hok
  refine ⟨added, hadded, ?_⟩
  obtain ⟨-, rfl⟩ := saveEvents_eq_ok_iff.mp hok
  have hall := appendEvents_unsaved (m := m) batch
  rw [hadded, List.map_append] at hall
  exact List.append_cancel_left hall

theorem Regular.logged (h : m.Regular) {batch : List Event} (hok : m.saveEvents batch = .ok m') :
    reading.Logged m batch m' := by
  obtain ⟨_, _, _, _, hrows, _⟩ := saveEvents_of_ok hok
  obtain ⟨added, hadded, hsame⟩ := saveEvents_unsaved hok
  refine ⟨h.saveEvents hok, hrows, ?_⟩
  show ∀ e ∈ m'.events, _
  rw [hadded]
  refine List.forall_mem_append.mpr ⟨fun e => .inl, fun e he => .inr ?_⟩
  obtain ⟨b, hb, heq⟩ := List.mem_map.mp (hsame ▸ List.mem_map_of_mem he)
  have htestCase := congrArg Event.testCase heq
  have hentity := congrArg Event.entity heq
  have htype := congrArg Event.type heq
  have htimestamp := congrArg Event.timestamp heq
  exact ⟨b, hb, htestCase.symm, hentity.symm, htype.symm, htimestamp.symm⟩

theorem reading_lawful : reading.Lawful where
  answers h := h.answers
  mono h := h
  saveEntity h hrun := by
    cases hrun
    exact Regular.lodged h _
  saveEvents {batch m m' answer} h _ hrun := by
    cases answer with
    | error e =>
        obtain ⟨_, rfl⟩ := StoreM.change_of_error hrun
        exact .refl h batch
    | ok u => exact Regular.logged h (StoreM.change_of_ok hrun)
  saveCounts h _ hrun := by
    cases hrun
    exact ⟨⟨h.entityIds, h.eventIds, h.testCaseIds, h.uids, h.keys, h.names, h.known, h.lastEntity,
      h.lastEvent, h.lastTestCase⟩, rfl, fun _ he => .inl he⟩

end MemoryStore

/-! ## The relational store -/

namespace RelationalStore

open Relational

variable {s s' : RelationalStore}

/-- Rows are read cell by cell, and moments at whole microseconds. -/
def reading : RowReading RelationalStore :=
  ⟨Legible, fun s => s.entities.rows.map EntityRow.entity, fun s => s.events.rows.map EventRow.event,
    Instant.OnCalendar, fun tally => ∀ n ∈ tally.toList, n < Word.bound 32, Instant.rounded⟩

/-- A row that an entity conflicts with is the same. -/
theorem Legible.same_of_findExisting (h : s.Legible) {e : Entity} {id : EntityId}
    (hfind : s.findExisting e = some id) :
    ∃ row ∈ reading.entities s, row.id = id ∧ row.sameAs e = true := by
  have hrow : ∃ r ∈ s.entities.rows, r.id = id ∧ (keyMatches e r || uidMatches e r) = true := by
    unfold findExisting at hfind
    split at hfind
    · rename_i r hr
      cases hfind
      exact ⟨r, List.mem_of_find?_eq_some hr, rfl, by rw [List.find?_some hr]; rfl⟩
    · obtain ⟨r, hr, rfl⟩ := Option.map_eq_some_iff.mp hfind
      exact ⟨r, List.mem_of_find?_eq_some hr, rfl, by rw [List.find?_some hr, Bool.or_true]⟩
  obtain ⟨r, hr, rfl, hmatches⟩ := hrow
  obtain ⟨x, hx⟩ := h.entities r hr
  refine ⟨r.entity, List.mem_map_of_mem hr, (h.read_entity hr).2.1, ?_⟩
  have hentity : r.entity = { x with id := r.id } := by
    have hread := (h.read_entity hr).1
    rw [hx, EntityRow.read_ofEntity] at hread
    rw [← hx] at hread
    exact (Except.ok.inj hread).symm
  rw [hx, keyMatches_ofEntity, uidMatches_ofEntity] at hmatches
  rw [hentity]
  exact hmatches

/-- Saving an entity as a batch of its own. -/
theorem saveEntities_singleton (s : RelationalStore) (e : Entity) :
    s.saveEntities [e] = match s.insertEntity e with
      | .ok (id, s') => (.ok [id], s')
      | .error err => (.error err, s) := by
  unfold saveEntities insertEntities
  cases s.insertEntity e with
  | error err => rfl
  | ok p => rfl

theorem Legible.lodged (h : s.Legible) {e : Entity} {answer : Except StoreError (List EntityId)}
    (hrun : s.saveEntities [e] = (answer, s')) : reading.Lodged s e answer s' := by
  rw [saveEntities_singleton] at hrun
  cases hone : s.insertEntity e with
  | error err =>
      rw [hone] at hrun
      cases hrun
      exact ⟨h, rfl, fun _ hrow => hrow, fun _ => .inl, nofun⟩
  | ok p =>
      obtain ⟨id, s₁⟩ := p
      rw [hone] at hrun
      cases hrun
      have hlegible := h.insertEntity hone
      rcases insertEntity_cases hone with ⟨next, hfind, -, rfl⟩ | ⟨-, -, -, rfl⟩
      · refine ⟨hlegible, rfl, fun _ hrow => hrow, fun _ => .inl, ?_⟩
        rintro ids ⟨⟩
        exact h.same_of_findExisting hfind
      · have hrows : reading.entities { s with entities := s.entities.push id (.ofEntity id e) } =
            reading.entities s ++ [{ e with id }] := by
          have hread := EntityRow.read_ofEntity id e
          show (s.entities.rows ++ [EntityRow.ofEntity id e]).map EntityRow.entity = _
          rw [List.map_append, List.map_singleton, EntityRow.entity, hread]
          rfl
        refine ⟨hlegible, rfl, ?_, ?_, ?_⟩ <;> rw [hrows]
        · exact List.subset_append_left _ _
        · exact List.forall_mem_append.mpr ⟨fun _ => .inl, List.forall_mem_singleton.mpr (.inr rfl)⟩
        · rintro ids ⟨⟩
          exact ⟨_, List.mem_append_right _ (List.mem_singleton.mpr rfl), rfl, e.sameAs_withId id⟩

theorem Legible.wrote (h : s.Legible) {batch : List Event} (hlogged : s.Logged batch s')
    (hdated : ∀ e ∈ batch, e.timestamp.OnCalendar) : reading.Logged s batch s' := by
  have hlegible := h.logged hlogged hdated
  obtain ⟨added, hrows, hsame⟩ := hlogged.events
  refine ⟨hlegible, congrArg (·.rows.map EntityRow.entity) hlogged.entities, ?_⟩
  show ∀ e ∈ s'.events.rows.map EventRow.event, _
  rw [hrows, List.map_append]
  refine List.forall_mem_append.mpr ⟨fun e => .inl, List.forall_mem_map.mpr fun r hr => .inr ?_⟩
  have hmem : r.unnumbered ∈ batch.map (EventRow.ofEvent 0) := hsame ▸ List.mem_map_of_mem hr
  obtain ⟨b, hb, hform⟩ := List.mem_map.mp hmem
  have hrow : EventRow.ofEvent r.id b = r := congrArg (fun row : EventRow => { row with id := r.id }) hform
  have hread := EventRow.read_ofEvent r.id (hdated b hb)
  rw [hrow] at hread
  have hevent : r.event = { b with id := some r.id, timestamp := b.timestamp.rounded } := by
    unfold EventRow.event
    rw [hread]
  rw [hevent]
  exact ⟨b, hb, rfl, rfl, rfl, rfl⟩

theorem reading_lawful : reading.Lawful where
  answers h := Legible.answers h
  mono h := Instant.rounded_mono h
  saveEntity h hrun := Legible.lodged h hrun
  saveEvents {batch s s' answer} h hdated hrun := by
    cases answer with
    | error e =>
        obtain ⟨_, rfl⟩ := StoreM.change_of_error hrun
        exact .refl h batch
    | ok u => exact Legible.wrote h (saveEvents_of_ok (StoreM.change_of_ok hrun)) hdated
  saveCounts {batch s s' answer} h hfit hrun := by
    cases answer with
    | error e =>
        obtain ⟨_, rfl⟩ := StoreM.change_of_error hrun
        exact .refl h []
    | ok u =>
        have hsampled := saveCounts_of_ok (StoreM.change_of_ok hrun)
        refine ⟨Legible.sampled h hsampled hfit, ?_, fun e he => .inl ?_⟩
        · exact congrArg (·.rows.map EntityRow.entity) hsampled.entities
        · change e ∈ s'.events.rows.map EventRow.event at he
          rw [hsampled.events] at he
          exact he

end RelationalStore

end StorageLifecycle
