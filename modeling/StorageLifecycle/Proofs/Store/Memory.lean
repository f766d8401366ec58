import Mathlib.Data.List.Nodup
import StorageLifecycle.Store.Memory

/-!
# Laws of the store in memory

Whatever is written to a store in memory, its rows of entities keep different ids, and its events
belong to rows that are there. Saving an entity gives the id of the oldest row that is the same, or
adds a row; saving a batch of events adds all of them or none.
-/

namespace StorageLifecycle.MemoryStore

variable {m m' : MemoryStore}

/-- Ids of entities are different and were handed out, and each event belongs to a row. -/
structure Sound (m : MemoryStore) : Prop where
  nodup : (m.entities.map (·.id)).Nodup
  le_last : ∀ row ∈ m.entities, row.id ≤ m.lastEntity
  known : ∀ e ∈ m.events, e.entity ∈ m.entities.map (·.id)

/-! ## Entities -/

theorem saveEntity_of_existing {e : Entity} {id : EntityId} (h : m.findExisting e = some id) :
    m.saveEntity e = (id, { m with resolved := m.resolved + 1 }) := by
  unfold saveEntity
  rw [h]

theorem saveEntity_of_new {e : Entity} (h : m.findExisting e = none) :
    m.saveEntity e = (m.lastEntity + 1, { m with
      lastEntity := m.lastEntity + 1
      entities := m.entities ++ [{ e with id := m.lastEntity + 1 }] }) := by
  unfold saveEntity
  rw [h]

/-- Saving an entity touches neither events nor samples nor test cases. -/
theorem saveEntity_events (m : MemoryStore) (e : Entity) :
    (m.saveEntity e).2.events = m.events ∧ (m.saveEntity e).2.counts = m.counts ∧
      (m.saveEntity e).2.testCases = m.testCases := by
  cases h : m.findExisting e with
  | some id =>
      rw [saveEntity_of_existing h]
      exact ⟨rfl, rfl, rfl⟩
  | none =>
      rw [saveEntity_of_new h]
      exact ⟨rfl, rfl, rfl⟩

/-- Rows of entities stay in the store. -/
theorem saveEntity_mem (e : Entity) {row : Entity} (h : row ∈ m.entities) :
    row ∈ (m.saveEntity e).2.entities := by
  cases hfind : m.findExisting e with
  | some id =>
      rw [saveEntity_of_existing hfind]
      exact h
  | none =>
      rw [saveEntity_of_new hfind]
      exact List.mem_append_left _ h

/-- An entity that was saved has a row. -/
theorem saveEntity_known (m : MemoryStore) (e : Entity) :
    (m.saveEntity e).1 ∈ (m.saveEntity e).2.entities.map (·.id) := by
  cases hfind : m.findExisting e with
  | some id =>
      rw [saveEntity_of_existing hfind]
      obtain ⟨row, hrow, rfl⟩ := Option.map_eq_some_iff.mp hfind
      exact List.mem_map_of_mem (List.mem_of_find?_eq_some hrow)
  | none =>
      rw [saveEntity_of_new hfind, List.map_append]
      exact List.mem_append_right _ (List.mem_singleton.mpr rfl)

theorem Sound.saveEntity (h : m.Sound) (e : Entity) : (m.saveEntity e).2.Sound := by
  cases hfind : m.findExisting e with
  | some id =>
      rw [saveEntity_of_existing hfind]
      exact ⟨h.nodup, h.le_last, h.known⟩
  | none =>
      rw [saveEntity_of_new hfind]
      refine ⟨?_, ?_, ?_⟩
      · rw [List.map_append, List.nodup_append]
        refine ⟨h.nodup, List.nodup_singleton _, ?_⟩
        intro i hi j hj heq
        obtain ⟨row, hrow, rfl⟩ := List.mem_map.mp hi
        rw [List.map_singleton, List.mem_singleton] at hj
        have hlt : row.id < m.lastEntity + 1 := Int.lt_add_one_of_le (h.le_last row hrow)
        exact Int.ne_of_lt hlt (heq.trans hj)
      · intro row hrow
        show row.id ≤ m.lastEntity + 1
        rcases List.mem_append.mp hrow with hold | hnew
        · exact Int.le_of_lt (Int.lt_add_one_of_le (h.le_last row hold))
        · obtain rfl := List.mem_singleton.mp hnew
          exact Int.le_refl _
      · intro ev hev
        rw [List.map_append]
        exact List.mem_append_left _ (h.known ev hev)

theorem Sound.saveEntities (h : m.Sound) (batch : List Entity) : (m.saveEntities batch).2.Sound := by
  induction batch generalizing m with
  | nil => exact h
  | cons e rest ih => exact ih (h.saveEntity e)

/-- Saving entities touches neither events nor samples nor test cases. -/
theorem saveEntities_rest (m : MemoryStore) (batch : List Entity) :
    (m.saveEntities batch).2.events = m.events ∧ (m.saveEntities batch).2.counts = m.counts ∧
      (m.saveEntities batch).2.testCases = m.testCases := by
  induction batch generalizing m with
  | nil => exact ⟨rfl, rfl, rfl⟩
  | cons e rest ih =>
      obtain ⟨hevents, hcounts, hcases⟩ := saveEntity_events m e
      obtain ⟨hevents', hcounts', hcases'⟩ := ih (m.saveEntity e).2
      exact ⟨hevents'.trans hevents, hcounts'.trans hcounts, hcases'.trans hcases⟩

/-! ## Events -/

/-- What an event says, without its name and its row number. -/
def trace (e : Event) : EventType × Instant × EntityId := (e.type, e.timestamp, e.entity)

theorem appendEvents_spec (batch : List Event) :
    ∃ added, (m.appendEvents batch).events = m.events ++ added ∧
      added.map trace = batch.map trace ∧
      added.map (·.testCase) = batch.map (·.testCase) ∧
      (m.appendEvents batch).entities = m.entities ∧
      (m.appendEvents batch).lastEntity = m.lastEntity ∧
      (m.appendEvents batch).counts = m.counts ∧
      (m.appendEvents batch).testCases = m.testCases := by
  induction batch generalizing m with
  | nil => exact ⟨[], (List.append_nil _).symm, rfl, rfl, rfl, rfl, rfl, rfl⟩
  | cons e rest ih =>
      obtain ⟨added, hevents, htrace, hcase, hrows⟩ := ih (m := { m with
        lastEvent := m.lastEvent + 1
        events := m.events ++ [{ e with id := some (m.lastEvent + 1) }] })
      refine ⟨{ e with id := some (m.lastEvent + 1) } :: added, ?_, ?_, ?_, hrows⟩
      · rw [← List.append_cons] at hevents
        exact hevents
      · rw [List.map_cons, List.map_cons, htrace]
        rfl
      · rw [List.map_cons, List.map_cons, hcase]

/-- A batch of events passes the check if and only if its events belong to stored entities and their names are
new and different. -/
theorem checkEvents_eq_ok_iff {names : List String} {batch : List Event} :
    m.checkEvents names batch = .ok () ↔ (∀ e ∈ batch, e.entity ∈ m.entities.map (·.id)) ∧
      (batch.map (·.name)).Nodup ∧ ∀ e ∈ batch, e.name ∉ names := by
  induction batch generalizing names with
  | nil => simp [checkEvents]
  | cons e rest ih =>
      have hany : (m.entities.any fun row => row.id == e.entity) = true ↔
          e.entity ∈ m.entities.map (·.id) := by simp
      unfold checkEvents
      by_cases hknown : e.entity ∈ m.entities.map (·.id)
      · rw [hany.mpr hknown, Bool.not_true, if_neg Bool.false_ne_true]
        by_cases hused : e.name ∈ names
        · rw [if_pos (List.contains_iff_mem.mpr hused)]
          exact ⟨nofun, fun h => absurd hused (h.2.2 e List.mem_cons_self)⟩
        · rw [if_neg fun h => hused (List.contains_iff_mem.mp h), ih]
          constructor
          · rintro ⟨hrest, hnodup, hnew⟩
            refine ⟨List.forall_mem_cons.mpr ⟨hknown, hrest⟩, List.nodup_cons.mpr ⟨?_, hnodup⟩,
              List.forall_mem_cons.mpr ⟨hused, fun x hx hin => hnew x hx (List.mem_cons_of_mem _ hin)⟩⟩
            intro hmem
            obtain ⟨x, hx, heq⟩ := List.mem_map.mp hmem
            exact hnew x hx (heq ▸ List.mem_cons_self)
          · rintro ⟨hall, hnodup, hnew⟩
            obtain ⟨hapart, hnodup⟩ := List.nodup_cons.mp hnodup
            refine ⟨(List.forall_mem_cons.mp hall).2, hnodup, fun x hx hin => ?_⟩
            rcases List.mem_cons.mp hin with heq | hin
            · exact hapart (List.mem_map.mpr ⟨x, hx, heq⟩)
            · exact hnew x (List.mem_cons_of_mem _ hx) hin
      · rw [Bool.eq_false_iff.mpr fun h => hknown (hany.mp h), Bool.not_false, if_pos rfl]
        exact ⟨nofun, fun h => absurd (h.1 e List.mem_cons_self) hknown⟩

/-- A batch is accepted if it passes the check, and then it is added as a whole. -/
theorem saveEvents_eq_ok_iff {batch : List Event} : m.saveEvents batch = .ok m' ↔
    m.checkEvents (m.events.map (·.name)) batch = .ok () ∧ m' = m.appendEvents batch := by
  unfold saveEvents
  cases m.checkEvents (m.events.map (·.name)) batch with
  | error e => exact ⟨nofun, fun h => nomatch h.1⟩
  | ok _ => exact ⟨fun h => ⟨rfl, (Except.ok.inj h).symm⟩, fun h => congrArg Except.ok h.2.symm⟩

/-- A batch that is accepted is added behind the events, and nothing else changes. -/
theorem saveEvents_of_ok {batch : List Event} (h : m.saveEvents batch = .ok m') :
    ∃ added, m'.events = m.events ++ added ∧ added.map trace = batch.map trace ∧
      added.map (·.testCase) = batch.map (·.testCase) ∧ m'.entities = m.entities ∧
      m'.lastEntity = m.lastEntity ∧ m'.counts = m.counts ∧ m'.testCases = m.testCases := by
  obtain ⟨-, rfl⟩ := saveEvents_eq_ok_iff.mp h
  exact appendEvents_spec batch

/-- A batch of events of entities that are there is not refused for want of one. -/
theorem checkEvents_ne_notFound {names : List String} {batch : List Event}
    (h : ∀ e ∈ batch, e.entity ∈ m.entities.map (·.id)) (what : String) :
    m.checkEvents names batch ≠ .error (.notFound what) := by
  induction batch generalizing names with
  | nil => exact nofun
  | cons e rest ih =>
      have hknown : (m.entities.any fun row => row.id == e.entity) = true := by
        simpa using h e List.mem_cons_self
      unfold checkEvents
      rw [hknown, Bool.not_true, if_neg Bool.false_ne_true]
      split
      · exact nofun
      · exact ih fun e' he' => h e' (List.mem_cons_of_mem _ he')

theorem saveEvents_ne_notFound {batch : List Event}
    (h : ∀ e ∈ batch, e.entity ∈ m.entities.map (·.id)) (what : String) :
    m.saveEvents batch ≠ .error (.notFound what) := by
  unfold saveEvents
  split
  · exact nofun
  · rename_i e hcheck
    intro heq
    cases heq
    exact checkEvents_ne_notFound h what hcheck

theorem Sound.saveEvents (h : m.Sound) {batch : List Event} (hok : m.saveEvents batch = .ok m') :
    m'.Sound := by
  obtain ⟨hchecked, -⟩ := saveEvents_eq_ok_iff.mp hok
  obtain ⟨added, hevents, htrace, _, hrows, hlast, _, _⟩ := saveEvents_of_ok hok
  refine ⟨hrows ▸ h.nodup, ?_, ?_⟩
  · rw [hrows, hlast]
    exact h.le_last
  · intro e he
    rw [hrows]
    rw [hevents] at he
    rcases List.mem_append.mp he with hold | hnew
    · exact h.known e hold
    · have hmem : trace e ∈ batch.map trace := htrace ▸ List.mem_map_of_mem hnew
      obtain ⟨e', he', htrace'⟩ := List.mem_map.mp hmem
      have hentity : e'.entity = e.entity := congrArg (fun t => t.2.2) htrace'
      exact hentity ▸ (checkEvents_eq_ok_iff.mp hchecked).1 e' he'

/-! ## Test cases -/

theorem finishTestCase_of_ok {id : TestCaseId} {success : Bool} {now : Instant}
    (h : m.finishTestCase id success now = .ok m') :
    ∃ testCases, closeFirst id success now m.testCases = some testCases ∧
      m' = { m with testCases } := by
  unfold finishTestCase at h
  split at h
  · rename_i testCases hclose
    cases h
    exact ⟨testCases, hclose, rfl⟩
  · exact nomatch h

/-! ## All that is written -/

/-- A store in memory that was filled by the operations of a store. -/
inductive Reachable : MemoryStore → Prop where
  | empty : Reachable empty
  | saveEntities {m : MemoryStore} (batch : List Entity) :
    Reachable m → Reachable (m.saveEntities batch).2
  | saveEvents {m m' : MemoryStore} (batch : List Event) :
    Reachable m → m.saveEvents batch = .ok m' → Reachable m'
  | saveCounts {m : MemoryStore} (batch : List CountSample) :
    Reachable m → Reachable (m.saveCounts batch)
  | createTestCase {m : MemoryStore} (tc : TestCase) :
    Reachable m → Reachable (m.createTestCase tc).2
  | finishTestCase {m m' : MemoryStore} (id : TestCaseId) (success : Bool) (now : Instant) :
    Reachable m → m.finishTestCase id success now = .ok m' → Reachable m'

end StorageLifecycle.MemoryStore
