import Mathlib.Data.List.Forall2
import StorageLifecycle.Proofs.Store.Basic
import StorageLifecycle.Proofs.Store.Calls
import StorageLifecycle.Proofs.Store.Memory

/-!
# The integrity of the store in memory

Whatever is called, in whichever order and with whichever batches, the ids of a store in memory count
its rows, the UIDs and the natural keys of its entities and the names of its events are keys, and each
event belongs to a stored entity. A call only ever adds rows at the end. The one change to a row that is
there already is the closing of a test case.
-/

namespace StorageLifecycle

/-- What tells entities of one test case apart. -/
def Entity.key (e : Entity) : EntityType × String × TestCaseId := (e.type, e.name, e.testCase)

theorem Entity.sameKey_iff {a b : Entity} : a.sameKey b = true ↔ a.key = b.key := by
  simp [Entity.sameKey, Entity.key, and_assoc]

theorem Entity.sameAs_iff {a b : Entity} :
    a.sameAs b = true ↔ a.key = b.key ∨ a.uid = b.uid := by
  rw [Entity.sameAs, Bool.or_eq_true, Entity.sameKey_iff, beq_iff_eq]

namespace MemoryStore

/-- The ids of so many rows: 1, 2, 3 and so on. -/
def numbers (n : Nat) : List Int := (List.range n).map fun i : Nat => (i : Int) + 1

theorem numbers_succ (n : Nat) : numbers (n + 1) = numbers n ++ [(n : Int) + 1] := by
  simp [numbers, List.range_succ]

theorem mem_numbers {n : Nat} {i : Int} : i ∈ numbers n ↔ 1 ≤ i ∧ i ≤ n := by
  rw [numbers, List.mem_map]
  constructor
  · rintro ⟨k, hk, rfl⟩
    have hlt := List.mem_range.mp hk
    omega
  · rintro ⟨hone, hn⟩
    refine ⟨i.toNat - 1, List.mem_range.mpr ?_, ?_⟩ <;> omega

theorem numbers_ascending (n : Nat) : (numbers n).Pairwise (· < ·) := by
  refine List.pairwise_map.mpr (List.pairwise_lt_range.imp fun hlt => ?_)
  omega

/-- One row more with the next number. -/
theorem numbered_append {α β : Type} {f : α → β} {g : Int → β} {l : List α} {a : α}
    (hl : l.map f = (numbers l.length).map g) (ha : f a = g (l.length + 1)) :
    (l ++ [a]).map f = (numbers (l ++ [a]).length).map g := by
  rw [List.length_append, List.length_singleton, numbers_succ, List.map_append, List.map_append, hl,
    List.map_singleton, List.map_singleton, ha]

/-- A counter that has gone on by one. -/
theorem counted_append {α : Type} {l : List α} {n : Int} (h : n = l.length) (a : α) :
    n + 1 = ((l ++ [a]).length : Int) := by
  rw [h, List.length_append, List.length_singleton]
  rfl

/-- One row more with a new key. -/
theorem nodup_map_append {α β : Type} {f : α → β} {l : List α} {a : α} (hl : (l.map f).Nodup)
    (ha : ∀ b ∈ l, f b ≠ f a) : ((l ++ [a]).map f).Nodup := by
  rw [List.map_append, List.map_singleton, List.nodup_append]
  refine ⟨hl, List.nodup_singleton _, ?_⟩
  rintro _ hold y hlast rfl
  obtain ⟨b, hb, heq⟩ := List.mem_map.mp hold
  exact ha b hb (heq.trans (List.mem_singleton.mp hlast))

/-- The rows are numbered without gaps in the order in which they were stored, and what should be a key
is one. -/
structure Regular (m : MemoryStore) : Prop where
  entityIds : m.entities.map (·.id) = numbers m.entities.length
  eventIds : m.events.map (·.id) = (numbers m.events.length).map some
  testCaseIds : m.testCases.map (·.id) = numbers m.testCases.length
  uids : (m.entities.map (·.uid)).Nodup
  keys : (m.entities.map (·.key)).Nodup
  names : (m.events.map (·.name)).Nodup
  known : ∀ e ∈ m.events, e.entity ∈ m.entities.map (·.id)
  lastEntity : m.lastEntity = m.entities.length
  lastEvent : m.lastEvent = m.events.length
  lastTestCase : m.lastTestCase = m.testCases.length

variable {m m' : MemoryStore}

/-- The next id of an entity is new. -/
theorem Regular.next_new (h : m.Regular) : m.lastEntity + 1 ∉ m.entities.map (·.id) := by
  rw [h.entityIds, mem_numbers, h.lastEntity]
  omega

theorem Regular.nodup_ids (h : m.Regular) : (m.entities.map (·.id)).Nodup := by
  rw [h.entityIds]
  exact (numbers_ascending _).imp Int.ne_of_lt

/-- Rows that are numbered without gaps are numbered differently, and none beyond the counter. -/
theorem Regular.sound (h : m.Regular) : m.Sound where
  nodup := h.nodup_ids
  le_last row hrow := by
    have hid : row.id ∈ numbers m.entities.length := h.entityIds ▸ List.mem_map_of_mem hrow
    rw [h.lastEntity]
    exact (mem_numbers.mp hid).2
  known := h.known

theorem regular_empty : empty.Regular := by
  constructor <;> first | rfl | exact List.nodup_nil | exact List.forall_mem_nil _

/-! ## What a call does -/

/-- What becomes of a store when something is written to it. -/
inductive Written (m : MemoryStore) : StoreWrite → MemoryStore → Prop where
  | refused (w : StoreWrite) : Written m w m
  | entities (batch : List Entity) : Written m (.saveEntities batch) (m.saveEntities batch).2
  | events {batch : List Event} {m' : MemoryStore} :
    m.saveEvents batch = .ok m' → Written m (.saveEvents batch) m'
  | counts (batch : List CountSample) : Written m (.saveCounts batch) (m.saveCounts batch)
  | created (tc : TestCase) : Written m (.createTestCase tc) (m.createTestCase tc).2
  | closed {id : TestCaseId} {success : Bool} {now : Instant} {testCases : List TestCase} :
    closeFirst id success now m.testCases = some testCases →
      Written m (.finishTestCase id success now) { m with testCases }

theorem written_run (m : MemoryStore) (w : StoreWrite) : m.Written w (w.run.perform m).2 := by
  cases w with
  | saveEntities batch => exact .entities batch
  | saveCounts batch =>
      rw [StoreWrite.run, StoreM.perform_map]
      exact .counts batch
  | createTestCase tc =>
      rw [StoreWrite.run, StoreM.perform_map]
      exact .created tc
  | saveEvents batch =>
      rw [StoreWrite.run, StoreM.perform_map]
      exact StoreM.after_change (fun _ hok => .events hok) fun _ _ => .refused _
  | finishTestCase id success now =>
      rw [StoreWrite.run, StoreM.perform_map]
      refine StoreM.after_change (fun _ hok => ?_) fun _ _ => .refused _
      obtain ⟨_, hclose, rfl⟩ := finishTestCase_of_ok hok
      exact .closed hclose

/-- Reading leaves the store as it is. -/
theorem after_read (m : MemoryStore) (r : StoreRead) : StoreCall.after m (.read r) = m := by
  show (r.run.perform m).2 = m
  cases r <;> rw [StoreRead.run, StoreM.perform_map] <;> rfl

/-! ## Entities -/

theorem findExisting_eq_none_iff {e : Entity} :
    m.findExisting e = none ↔ ∀ row ∈ m.entities, row.key ≠ e.key ∧ row.uid ≠ e.uid := by
  rw [findExisting, Option.map_eq_none_iff, List.find?_eq_none]
  refine forall₂_congr fun row _ => ?_
  rw [Entity.sameAs_iff, not_or]

theorem Regular.saveEntity (h : m.Regular) (e : Entity) : (m.saveEntity e).2.Regular := by
  cases hfind : m.findExisting e with
  | some id =>
      rw [saveEntity_of_existing hfind]
      exact ⟨h.entityIds, h.eventIds, h.testCaseIds, h.uids, h.keys, h.names, h.known, h.lastEntity,
        h.lastEvent, h.lastTestCase⟩
  | none =>
      have hnew := findExisting_eq_none_iff.mp hfind
      rw [saveEntity_of_new hfind]
      constructor
      · have hids := numbered_append (g := id) (a := { e with id := m.lastEntity + 1 })
          (h.entityIds.trans (List.map_id _).symm) (congrArg (· + 1) h.lastEntity)
        exact hids.trans (List.map_id _)
      · exact h.eventIds
      · exact h.testCaseIds
      · exact nodup_map_append h.uids fun row hrow => (hnew row hrow).2
      · exact nodup_map_append h.keys fun row hrow => (hnew row hrow).1
      · exact h.names
      · intro ev hev
        obtain ⟨row, hrow, hid⟩ := List.mem_map.mp (h.known ev hev)
        exact List.mem_map.mpr ⟨row, List.mem_append_left _ hrow, hid⟩
      · exact counted_append h.lastEntity _
      · exact h.lastEvent
      · exact h.lastTestCase

theorem Regular.saveEntities (h : m.Regular) (batch : List Entity) :
    (m.saveEntities batch).2.Regular := by
  induction batch generalizing m with
  | nil => exact h
  | cons e rest ih => exact ih (h.saveEntity e)

theorem saveEntities_entities (m : MemoryStore) (batch : List Entity) :
    m.entities <+: (m.saveEntities batch).2.entities := by
  induction batch generalizing m with
  | nil => exact List.prefix_refl _
  | cons e rest ih =>
      refine List.IsPrefix.trans ?_ (ih (m.saveEntity e).2)
      cases hfind : m.findExisting e with
      | some id =>
          have hsaved := saveEntity_of_existing hfind
          exact hsaved ▸ List.prefix_refl _
      | none =>
          have hsaved := saveEntity_of_new hfind
          exact hsaved ▸ List.prefix_append _ _

/-! ## Events -/

/-- An event of a stored entity with a new name. -/
theorem Regular.appendEvent (h : m.Regular) {e : Event} (hknown : e.entity ∈ m.entities.map (·.id))
    (hname : e.name ∉ m.events.map (·.name)) : (m.appendEvents [e]).Regular := by
  constructor
  · exact h.entityIds
  · exact numbered_append h.eventIds (congrArg (fun i => some (i + 1)) h.lastEvent)
  · exact h.testCaseIds
  · exact h.uids
  · exact h.keys
  · exact nodup_map_append h.names fun ev hev heq => hname (List.mem_map.mpr ⟨ev, hev, heq⟩)
  · intro ev hev
    rcases List.mem_append.mp hev with hold | hnew
    · exact h.known ev hold
    · rw [List.mem_singleton.mp hnew]
      exact hknown
  · exact h.lastEntity
  · exact counted_append h.lastEvent _
  · exact h.lastTestCase

/-- The names of a batch are new also for those behind its first event. -/
theorem names_new_after {e : Event} {rest : List Event} (hapart : e.name ∉ rest.map (·.name))
    (hnew : ∀ x ∈ rest, x.name ∉ m.events.map (·.name)) :
    ∀ x ∈ rest, x.name ∉ (m.appendEvents [e]).events.map (·.name) := by
  intro x hx hmem
  have hnames : (m.appendEvents [e]).events.map (·.name) = m.events.map (·.name) ++ [e.name] := by
    simp [MemoryStore.appendEvents]
  rw [hnames, List.mem_append, List.mem_singleton] at hmem
  rcases hmem with hold | heq
  · exact hnew x hx hold
  · exact hapart (List.mem_map.mpr ⟨x, hx, heq⟩)

theorem Regular.appendEvents (h : m.Regular) {batch : List Event}
    (hknown : ∀ e ∈ batch, e.entity ∈ m.entities.map (·.id)) (hnodup : (batch.map (·.name)).Nodup)
    (hnew : ∀ e ∈ batch, e.name ∉ m.events.map (·.name)) : (m.appendEvents batch).Regular := by
  induction batch generalizing m with
  | nil => exact h
  | cons e rest ih =>
      obtain ⟨hapart, hnodup⟩ := List.nodup_cons.mp hnodup
      obtain ⟨heknown, hrestKnown⟩ := List.forall_mem_cons.mp hknown
      obtain ⟨henew, hrestNew⟩ := List.forall_mem_cons.mp hnew
      exact ih (m := m.appendEvents [e]) (h.appendEvent heknown henew) hrestKnown hnodup
        (names_new_after hapart hrestNew)

theorem Regular.saveEvents (h : m.Regular) {batch : List Event} (hok : m.saveEvents batch = .ok m') :
    m'.Regular := by
  obtain ⟨hcheck, rfl⟩ := saveEvents_eq_ok_iff.mp hok
  obtain ⟨hknown, hnodup, hnew⟩ := checkEvents_eq_ok_iff.mp hcheck
  exact h.appendEvents hknown hnodup hnew

/-! ## Test cases -/

theorem Regular.createTestCase (h : m.Regular) (tc : TestCase) : (m.createTestCase tc).2.Regular := by
  constructor
  · exact h.entityIds
  · exact h.eventIds
  · have hids := numbered_append (g := id) (a := { tc with id := m.lastTestCase + 1 })
      (h.testCaseIds.trans (List.map_id _).symm) (congrArg (· + 1) h.lastTestCase)
    exact hids.trans (List.map_id _)
  · exact h.uids
  · exact h.keys
  · exact h.names
  · exact h.known
  · exact h.lastEntity
  · exact h.lastEvent
  · exact counted_append h.lastTestCase _

/-- What a call may make of a test case: it stays as it is, or the call closes it. -/
def Stays (c : StoreCall) (tc tc' : TestCase) : Prop :=
  tc' = tc ∨ ∃ success now, c = .write (.finishTestCase tc.id success now) ∧
    tc' = { tc with endedAt := some now, success := some success }

theorem Stays.id_eq {c : StoreCall} {tc tc' : TestCase} (h : Stays c tc tc') : tc'.id = tc.id := by
  rcases h with rfl | ⟨_, _, _, rfl⟩ <;> rfl

theorem stays_refl (c : StoreCall) (tcs : List TestCase) : List.Forall₂ (Stays c) tcs tcs :=
  List.forall₂_same.mpr fun _ _ => .inl rfl

/-- A test case that is there can be closed. -/
theorem closeFirst_of_mem {id : TestCaseId} {tcs : List TestCase} (h : id ∈ tcs.map (·.id))
    (success : Bool) (now : Instant) : ∃ tcs', closeFirst id success now tcs = some tcs' := by
  induction tcs with
  | nil => exact nomatch h
  | cons tc rest ih =>
      unfold closeFirst
      by_cases hid : tc.id = id
      · exact ⟨_, if_pos hid⟩
      · rw [if_neg hid]
        rcases List.mem_cons.mp h with heq | hrest
        · exact absurd heq.symm hid
        · obtain ⟨closed, hclosed⟩ := ih hrest
          exact ⟨tc :: closed, by rw [hclosed]; rfl⟩

theorem stays_of_closeFirst {id : TestCaseId} {success : Bool} {now : Instant}
    {tcs tcs' : List TestCase} (h : closeFirst id success now tcs = some tcs') :
    List.Forall₂ (Stays (.write (.finishTestCase id success now))) tcs tcs' := by
  induction tcs generalizing tcs' with
  | nil => exact nomatch h
  | cons tc rest ih =>
      unfold closeFirst at h
      by_cases hid : tc.id = id
      · rw [if_pos hid] at h
        cases h
        exact .cons (.inr ⟨success, now, by rw [hid], rfl⟩) (stays_refl _ _)
      · rw [if_neg hid] at h
        obtain ⟨closed, hclosed, rfl⟩ := Option.map_eq_some_iff.mp h
        exact .cons (.inl rfl) (ih hclosed)

theorem ids_of_stays {c : StoreCall} {tcs tcs' : List TestCase}
    (h : List.Forall₂ (Stays c) tcs tcs') : tcs'.map (·.id) = tcs.map (·.id) := by
  induction h with
  | nil => rfl
  | cons hone _ ih => rw [List.map_cons, List.map_cons, hone.id_eq, ih]

/-- The ids of test cases were handed out. -/
theorem Regular.testCase_le (h : m.Regular) : ∀ tc ∈ m.testCases, tc.id ≤ m.lastTestCase := by
  intro tc htc
  have hid : tc.id ∈ numbers m.testCases.length := h.testCaseIds ▸ List.mem_map_of_mem htc
  rw [h.lastTestCase]
  exact (mem_numbers.mp hid).2

/-! ## Every sequence of calls -/

theorem Regular.written (h : m.Regular) {w : StoreWrite} (hw : m.Written w m') : m'.Regular := by
  cases hw with
  | refused => exact h
  | entities batch => exact h.saveEntities batch
  | events hok => exact h.saveEvents hok
  | counts batch =>
      exact ⟨h.entityIds, h.eventIds, h.testCaseIds, h.uids, h.keys, h.names, h.known, h.lastEntity,
        h.lastEvent, h.lastTestCase⟩
  | created tc => exact h.createTestCase tc
  | closed hclose =>
      have hstays := stays_of_closeFirst hclose
      have hlength := hstays.length_eq
      refine ⟨h.entityIds, h.eventIds, ?_, h.uids, h.keys, h.names, h.known, h.lastEntity,
        h.lastEvent, ?_⟩
      · exact (ids_of_stays hstays).trans (hlength ▸ h.testCaseIds)
      · exact hlength ▸ h.lastTestCase

theorem Regular.after (h : m.Regular) (c : StoreCall) : (StoreCall.after m c).Regular := by
  cases c with
  | write w => exact h.written (written_run m w)
  | read r => exact (after_read m r).symm ▸ h

theorem Regular.afterAll (h : m.Regular) (calls : List StoreCall) :
    (StoreCall.afterAll m calls).Regular :=
  List.foldlRecOn calls StoreCall.after h fun _ h c _ => h.after c

theorem Reachable.regular (h : m.Reachable) : m.Regular := by
  induction h with
  | empty => exact regular_empty
  | saveEntities batch _ ih => exact ih.saveEntities batch
  | saveEvents batch _ hok ih => exact ih.saveEvents hok
  | saveCounts batch _ ih => exact ih.written (.counts batch)
  | createTestCase tc _ ih => exact ih.createTestCase tc
  | finishTestCase id success now _ hok ih =>
      obtain ⟨_, hclose, rfl⟩ := finishTestCase_of_ok hok
      exact ih.written (.closed hclose)

theorem Reachable.sound (h : m.Reachable) : m.Sound := h.regular.sound

/-- What a call makes of a store: entities, events and samples are only added, behind those that are
there, and a test case that is there changes only when the call closes it. -/
structure Appended (c : StoreCall) (m m' : MemoryStore) : Prop where
  entities : m.entities <+: m'.entities
  events : m.events <+: m'.events
  counts : m.counts <+: m'.counts
  testCases : ∃ kept added, m'.testCases = kept ++ added ∧ List.Forall₂ (Stays c) m.testCases kept

theorem Appended.refl (c : StoreCall) (m : MemoryStore) : Appended c m m :=
  ⟨List.prefix_refl _, List.prefix_refl _, List.prefix_refl _, m.testCases, [],
    (List.append_nil _).symm, stays_refl c _⟩

theorem appended_of_written {w : StoreWrite} (hw : m.Written w m') : Appended (.write w) m m' := by
  have hsame := (Appended.refl (.write w) m).testCases
  cases hw with
  | refused => exact Appended.refl _ m
  | entities batch =>
      obtain ⟨hevents, hcounts, hcases⟩ := saveEntities_rest m batch
      refine ⟨saveEntities_entities m batch, ?_, ?_, ?_⟩
      · exact hevents ▸ List.prefix_refl _
      · exact hcounts ▸ List.prefix_refl _
      · rw [hcases]
        exact hsame
  | events hok =>
      obtain ⟨added, hevents, _, _, hrows, _, hcounts, hcases⟩ := saveEvents_of_ok hok
      refine ⟨?_, ⟨added, hevents.symm⟩, ?_, ?_⟩
      · exact hrows ▸ List.prefix_refl _
      · exact hcounts ▸ List.prefix_refl _
      · rw [hcases]
        exact hsame
  | counts batch => exact ⟨List.prefix_refl _, List.prefix_refl _, List.prefix_append _ _, hsame⟩
  | created tc =>
      exact ⟨List.prefix_refl _, List.prefix_refl _, List.prefix_refl _, m.testCases, [_], rfl,
        stays_refl _ _⟩
  | closed hclose =>
      exact ⟨List.prefix_refl _, List.prefix_refl _, List.prefix_refl _, _, [],
        (List.append_nil _).symm, stays_of_closeFirst hclose⟩

theorem appended_after (m : MemoryStore) (c : StoreCall) : Appended c m (StoreCall.after m c) := by
  cases c with
  | write w => exact appended_of_written (written_run m w)
  | read r => exact (after_read m r).symm ▸ Appended.refl _ m

/-- After every sequence of calls, the failed ones among them, the rows are numbered without gaps and the
keys are keys; and one call more only adds rows, but for the closing of a test case. -/
theorem regular_and_appended (calls : List StoreCall) :
    (StoreCall.afterAll empty calls).Regular ∧
      ∀ c, Appended c (StoreCall.afterAll empty calls) (StoreCall.afterAll empty (calls ++ [c])) := by
  refine ⟨regular_empty.afterAll calls, fun c => ?_⟩
  rw [StoreCall.afterAll_append_singleton]
  exact appended_after _ c

end MemoryStore

end StorageLifecycle
