import Mathlib.Logic.Equiv.Basic
import StorageLifecycle.Proofs.Backends.Ascending
import StorageLifecycle.Proofs.Backends.Rows

/-!
# Both stores accept the same events

The store in memory checks a batch of events as a whole, against the names in use and those of the batch so
far, and stores it then. The relational store inserts one event after the other, and takes all of them back
when a key refuses one. Either way a batch is accepted if its events are of stored entities and their names
are new and different. So stores that correspond accept the same batches, and correspond again afterwards.
What the relational store alone can run out of is ids, of which there are 2⁶³.
-/

namespace StorageLifecycle

open Relational

/-- The store takes the batch. -/
def Accepts {σ : Type} [EventStore σ] (s : σ) (batch : List Event) : Prop :=
  ∃ s', (EventStore.saveEvents batch).perform s = (.ok (), s')

/-! ## When a batch is accepted -/

/-- The store in memory accepts a batch if its events are of stored entities and their names are new and
different. -/
theorem MemoryStore.accepts_iff {m : MemoryStore} {batch : List Event} :
    Accepts m batch ↔ (∀ e ∈ batch, e.entity ∈ m.entities.map (·.id)) ∧ (batch.map (·.name)).Nodup ∧
      ∀ e ∈ batch, e.name ∉ m.events.map (·.name) := by
  rw [← checkEvents_eq_ok_iff]
  constructor
  · rintro ⟨m', hrun⟩
    exact (saveEvents_eq_ok_iff.mp (StoreM.change_of_ok hrun)).1
  · intro hcheck
    exact ⟨m.appendEvents batch, StoreM.change_eq_ok (saveEvents_eq_ok_iff.mpr ⟨hcheck, rfl⟩)⟩

namespace RelationalStore

variable {s : RelationalStore} {batch : List Event}

theorem exists_saveEvents_iff : (∃ s', s.saveEvents batch = .ok s') ↔
    s.events.HasRoom EventRow.id batch.length ∧
      (∀ e ∈ batch, s.hasTestCase e.testCase = true ∧ s.hasEntity e.entity = true) ∧
      (batch.map (·.name)).Nodup ∧ ∀ e ∈ batch, ∀ r ∈ s.events.rows, r.name ≠ .text e.name := by
  induction batch generalizing s with
  | nil =>
      refine iff_of_true ⟨s, rfl⟩ ⟨fun h => absurd h (Nat.lt_irrefl 0), ?_⟩
      exact ⟨List.forall_mem_nil _, List.nodup_nil, List.forall_mem_nil _⟩
  | cons e rest ih =>
      constructor
      · rintro ⟨s', hok⟩
        rw [saveEvents, List.foldlM_cons] at hok
        obtain ⟨s₁, hfirst, hrest⟩ := bind_of_ok hok
        obtain ⟨id, hid, hname, hcase, hentity, rfl⟩ := insertEvent_eq_ok_iff.mp hfirst
        obtain ⟨hroom, hknown, hnodup, hnew⟩ := ih.mp ⟨s', hrest⟩
        refine ⟨(Table.hasRoom_push hid rfl).mp hroom, List.forall_mem_cons.mpr ⟨⟨hcase, hentity⟩, hknown⟩,
          List.nodup_cons.mpr ⟨fun hmem => ?_, hnodup⟩,
          List.forall_mem_cons.mpr ⟨hname, fun x hx r hr => hnew x hx r (List.mem_append_left _ hr)⟩⟩
        -- The row of the first event has its name already.
        obtain ⟨x, hx, heq⟩ := List.mem_map.mp hmem
        exact hnew x hx _ (List.mem_append_right _ List.mem_cons_self) (congrArg Cell.text heq.symm)
      · rintro ⟨hroom, hknown, hnodup, hnew⟩
        obtain ⟨⟨hcase, hentity⟩, hknown⟩ := List.forall_mem_cons.mp hknown
        obtain ⟨hapart, hnodup⟩ := List.nodup_cons.mp hnodup
        obtain ⟨hname, hnew⟩ := List.forall_mem_cons.mp hnew
        obtain ⟨id, hid⟩ := hroom.next
        have hfirst := insertEvent_eq_ok_iff.mpr ⟨id, hid, hname, hcase, hentity, rfl⟩
        have hnew' : ∀ x ∈ rest, ∀ r ∈ (s.events.push id (.ofEvent id e)).rows, r.name ≠ .text x.name := by
          intro x hx
          refine List.forall_mem_append.mpr ⟨hnew x hx, List.forall_mem_singleton.mpr fun heq => ?_⟩
          exact hapart (List.mem_map.mpr ⟨x, hx, (Cell.text.inj heq).symm⟩)
        have hroom' : (s.events.push id (.ofEvent id e)).HasRoom EventRow.id rest.length :=
          (Table.hasRoom_push hid rfl).mpr hroom
        obtain ⟨s', hrest⟩ := ih (s := { s with events := s.events.push id (.ofEvent id e) }) |>.mpr
          ⟨hroom', hknown, hnodup, hnew'⟩
        refine ⟨s', ?_⟩
        rw [saveEvents, List.foldlM_cons, hfirst]
        exact hrest

/-- The relational store accepts a batch if its events are of stored test cases and entities and their names
are new and different, and if there are ids for their rows. -/
theorem accepts_iff : Accepts s batch ↔ s.events.HasRoom EventRow.id batch.length ∧
    (∀ e ∈ batch, s.hasTestCase e.testCase = true ∧ s.hasEntity e.entity = true) ∧
    (batch.map (·.name)).Nodup ∧ ∀ e ∈ batch, ∀ r ∈ s.events.rows, r.name ≠ .text e.name :=
  Iff.trans (exists_congr fun _ => ⟨fun h => StoreM.change_of_ok h, fun h => StoreM.change_eq_ok h⟩)
    exists_saveEvents_iff

end RelationalStore

/-! ## Stores that correspond -/

/-- The rows are those of the events, in the same order: under the same names, of the same test cases and
types, of the translated entities, and at whole microseconds. The numbers of rows do not count. -/
def Listed (f : EntityId → EntityId) (events : List Event) (rows : List EventRow) : Prop :=
  rows.map EventRow.unnumbered = events.map fun e => .ofEvent 0 (e.readdress f)

/-- The stores have the same test cases, entities whose ids translate into each other, and the same names of
events. -/
structure Corresponding (f : EntityId ≃ EntityId) (m : MemoryStore) (r : RelationalStore) : Prop where
  testCases : ∀ id, r.hasTestCase id = true ↔ id ∈ m.testCases.map (·.id)
  entities : ∀ id, r.hasEntity (f id) = true ↔ id ∈ m.entities.map (·.id)
  names : ∀ name, (∃ row ∈ r.events.rows, row.name = .text name) ↔ name ∈ m.events.map (·.name)

section

variable {f : EntityId → EntityId} {events events' : List Event} {rows rows' : List EventRow}

theorem Listed.append (h : Listed f events rows) (h' : Listed f events' rows') :
    Listed f (events ++ events') (rows ++ rows') := by
  unfold Listed
  rw [List.map_append, List.map_append, h, h']

theorem Listed.name_iff (h : Listed f events rows) (name : String) :
    (∃ row ∈ rows, row.name = .text name) ↔ name ∈ events.map (·.name) := by
  have hnames : rows.map EventRow.name = (events.map (·.name)).map Cell.text := by
    rw [List.map_map]
    exact map_of_map_eq (fun row e _ hform => congrArg EventRow.name hform) h
  rw [← List.mem_map, hnames, List.mem_map_of_injective fun _ _ => Cell.text.inj]

theorem Listed.filter (h : Listed f events rows) (id : TestCaseId) :
    Listed f (events.filter fun e => e.testCase == id)
      (rows.filter fun r => r.testCase == .integer id) := by
  have hcase := congrArg (List.filter fun r : EventRow => r.testCase == .integer id) h
  rw [List.filter_map, List.filter_map] at hcase
  refine hcase.trans (congrArg _ (List.filter_congr fun e _ => ?_))
  exact Cell.integer_beq e.testCase id

/-- What is listed can be read. -/
theorem Listed.read (h : Listed f events rows) (hdated : ∀ e ∈ events, e.timestamp.OnCalendar) :
    ∃ es, rows.mapM EventRow.read = .ok es ∧
      es.map Event.unsaved = events.map fun e => (e.rounded f).unsaved := by
  have hone : ∀ row : EventRow, ∀ e ∈ events, row.unnumbered = .ofEvent 0 (e.readdress f) →
      row.read = .ok row.event ∧ row.event.unsaved = (e.rounded f).unsaved := by
    intro row e he hform
    have hread := EventRow.read_of_unnumbered hform (hdated e he)
    unfold EventRow.event
    rw [hread]
    exact ⟨rfl, rfl⟩
  refine ⟨rows.map EventRow.event, RelationalStore.mapM_read fun row hrow => ?_, ?_⟩
  · obtain ⟨e, he, hform⟩ := List.mem_map.mp (h ▸ List.mem_map_of_mem hrow)
    exact (hone row e he hform.symm).1
  · rw [List.map_map]
    exact map_of_map_eq (fun row e he hform => (hone row e he hform).2) h

end

/-! ## The same batch, saved to both -/

/-- What becomes of two stores when a batch of events is saved to both of them. -/
structure Concur (f : EntityId ≃ EntityId) (m : MemoryStore) (r : RelationalStore) (batch : List Event) :
    Prop where
  /-- Both accept the batch, or neither does, as long as the relational store has ids for its rows. -/
  accepts : Accepts r (batch.map (Event.readdress f)) ↔
    Accepts m batch ∧ r.events.HasRoom EventRow.id batch.length
  /-- Stores that accept it correspond again, and what they gain is the batch in its order. Where all events
  were listed in the same order before, they are again, and are read in this order. -/
  accepted : ∀ m' r', (EventStore.saveEvents batch).perform m = (.ok (), m') →
    (EventStore.saveEvents (batch.map (Event.readdress f))).perform r = (.ok (), r') →
    Corresponding f m' r' ∧
    (∃ saved added, m'.events = m.events ++ saved ∧ saved.map Event.unsaved = batch.map Event.unsaved ∧
      r'.events.rows = r.events.rows ++ added ∧ Listed f saved added) ∧
    (Listed f m.events r.events.rows → Listed f m'.events r'.events.rows ∧
      ((∀ e ∈ m'.events, e.timestamp.OnCalendar) → ∀ tc, ∃ es, r'.eventsOf tc = .ok es ∧
        es.map Event.unsaved = (m'.eventsOf tc).map fun e => (e.rounded f).unsaved))
  /-- A store that refuses it stays as it is. -/
  refused : (∀ e m', (EventStore.saveEvents batch).perform m = (.error e, m') → m' = m) ∧
    ∀ e r', (EventStore.saveEvents (batch.map (Event.readdress f))).perform r = (.error e, r') → r' = r

variable {f : EntityId ≃ EntityId} {m m' : MemoryStore} {r r' : RelationalStore} {batch : List Event}

/-- Stores that correspond accept the same batches of events of their test cases. -/
theorem Corresponding.accepts_iff (h : Corresponding f m r)
    (hcases : ∀ e ∈ batch, e.testCase ∈ m.testCases.map (·.id)) :
    Accepts r (batch.map (Event.readdress f)) ↔
      Accepts m batch ∧ r.events.HasRoom EventRow.id batch.length := by
  have hknown : (∀ e ∈ batch.map (Event.readdress f), r.hasTestCase e.testCase = true ∧
      r.hasEntity e.entity = true) ↔ ∀ e ∈ batch, e.entity ∈ m.entities.map (·.id) := by
    rw [List.forall_mem_map]
    refine forall₂_congr fun e he => ?_
    exact (and_iff_right ((h.testCases _).mpr (hcases e he))).trans (h.entities e.entity)
  have hnames : (batch.map (Event.readdress f)).map (·.name) = batch.map (·.name) := by
    rw [List.map_map]
    rfl
  have hnew : (∀ e ∈ batch.map (Event.readdress f), ∀ row ∈ r.events.rows, row.name ≠ .text e.name) ↔
      ∀ e ∈ batch, e.name ∉ m.events.map (·.name) := by
    rw [List.forall_mem_map]
    refine forall₂_congr fun e _ => ?_
    rw [← h.names e.name, not_exists]
    exact forall_congr' fun row => not_and.symm
  rw [RelationalStore.accepts_iff, MemoryStore.accepts_iff, hknown, hnames, hnew, List.length_map]
  exact and_comm

/-- What corresponding stores gain by a batch that both accept corresponds. -/
theorem Corresponding.gained (h : Corresponding f m r)
    (hm : (EventStore.saveEvents batch).perform m = (.ok (), m'))
    (hr : (EventStore.saveEvents (batch.map (Event.readdress f))).perform r = (.ok (), r')) :
    Corresponding f m' r' ∧ ∃ saved added, m'.events = m.events ++ saved ∧
      saved.map Event.unsaved = batch.map Event.unsaved ∧ r'.events.rows = r.events.rows ++ added ∧
      Listed f saved added := by
  have hok : m.saveEvents batch = .ok m' := StoreM.change_of_ok hm
  obtain ⟨_, _, _, _, hentities, _, _, hcases⟩ := MemoryStore.saveEvents_of_ok hok
  obtain ⟨saved, hsaved, hunsaved⟩ := MemoryStore.saveEvents_unsaved hok
  have hlogged := RelationalStore.saveEvents_of_ok (StoreM.change_of_ok hr)
  obtain ⟨added, hadded, hform⟩ := hlogged.events
  have hlisted : Listed f saved added := by
    rw [List.map_map] at hform
    -- The row of an event says nothing of the number that the event has in memory.
    refine hform.trans (map_of_map_eq (fun a b _ hsame => ?_) hunsaved.symm)
    show EventRow.ofEvent 0 (a.unsaved.readdress f) = .ofEvent 0 (b.unsaved.readdress f)
    rw [hsame]
  refine ⟨⟨fun id => ?_, fun id => ?_, fun name => ?_⟩, saved, added, hsaved, hunsaved, hadded, hlisted⟩
  · rw [hcases, ← h.testCases id, RelationalStore.hasTestCase, hlogged.testCases]
    rfl
  · rw [hentities, ← h.entities id, RelationalStore.hasEntity, hlogged.entities]
    rfl
  · rw [hsaved, List.map_append, List.mem_append, ← h.names name, ← hlisted.name_iff name, hadded]
    simp only [List.mem_append, or_and_right, exists_or]

/-- A batch of events of test cases that are there, saved to a store in memory and, with translated ids of
entities, to a relational store that corresponds to it. -/
theorem Corresponding.concur (h : Corresponding f m r)
    (hcases : ∀ e ∈ batch, e.testCase ∈ m.testCases.map (·.id)) : Concur f m r batch where
  accepts := h.accepts_iff hcases
  accepted m' r' hm hr := by
    obtain ⟨hagain, saved, added, hsaved, hunsaved, hadded, hlisted⟩ := h.gained hm hr
    refine ⟨hagain, ⟨saved, added, hsaved, hunsaved, hadded, hlisted⟩, fun hbefore => ?_⟩
    have hafter : Listed f m'.events r'.events.rows := by
      rw [hsaved, hadded]
      exact hbefore.append hlisted
    refine ⟨hafter, fun hdated tc => (hafter.filter tc).read fun e he => ?_⟩
    exact hdated e (List.mem_filter.mp he).1
  refused := ⟨fun _ _ h => (StoreM.change_of_error h).2, fun _ _ h => (StoreM.change_of_error h).2⟩

/-- An entity that is saved twice uses up an id of the relational store, so the one after it has the id 2 in
memory and the id 3 there. Events of both are accepted, but not with one of an entity that neither has. -/
theorem Corresponding.concur_swapped :
    let calls := [StoreCall.write (.createTestCase (.fresh "a" "run" .epoch)),
      .write (.saveEntities [.fresh "data" "u1" .pvc 1, .fresh "data" "u1" .pvc 1, .fresh "web" "u2" .pod 1]),
      .write (.saveEvents [⟨none, "x1", 1, 1, .pvcAdded, ⟨1500⟩⟩])]
    let m := StoreCall.afterAll MemoryStore.empty calls
    let r := StoreCall.afterAll RelationalStore.empty calls
    let f := Equiv.swap 2 3
    let batch := [⟨none, "x2", 1, 2, .podAdded, ⟨2500⟩⟩, ⟨none, "x3", 1, 1, .pvcBound, ⟨3999⟩⟩]
    let dangling := batch ++ [⟨none, "x4", 1, 3, .podReady, ⟨4000⟩⟩]
    Corresponding f m r ∧ Concur f m r batch ∧ Concur f m r dangling ∧
      Accepts m batch ∧ Accepts r (batch.map (Event.readdress f)) ∧ ¬Accepts m dangling ∧
      ¬Accepts r (dangling.map (Event.readdress f)) := by
  intro calls m r f batch dangling
  have hcorresponding : Corresponding f m r := by
    have hlisted : Listed f m.events r.events.rows := rfl
    refine ⟨fun id => ?_, fun id => ?_, hlisted.name_iff⟩
    · have hids : r.testCases.rows.map TestCaseRow.id = m.testCases.map (·.id) := rfl
      rw [← hids, List.mem_map]
      exact RelationalStore.hasTestCase_iff
    · have hm : m.entities.map (·.id) = [1, 2] := rfl
      have hr : r.entities.rows.map EntityRow.id = [1, 3] := rfl
      rw [RelationalStore.hasEntity_iff, ← List.mem_map, hm, hr, Equiv.swap_apply_def]
      split_ifs <;> simp [*]
  have hbatch : Concur f m r batch := hcorresponding.concur (by decide)
  have hdangling : Concur f m r dangling := hcorresponding.concur (by decide)
  have haccepts : Accepts m batch := ⟨_, rfl⟩
  have hrefuses : ¬Accepts m dangling := fun h => absurd (MemoryStore.accepts_iff.mp h).1 (by decide)
  have hrefuses' : ¬Accepts r (dangling.map (Event.readdress f)) :=
    fun h => hrefuses (hdangling.accepts.mp h).1
  exact ⟨hcorresponding, hbatch, hdangling, haccepts, ⟨_, rfl⟩, hrefuses, hrefuses'⟩

end StorageLifecycle
