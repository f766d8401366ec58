import StorageLifecycle.Proofs.Backends.Matching
import StorageLifecycle.Proofs.Store.Identity

/-!
# Two stores in lockstep

Stores that match go on matching when the same is written to both of them: a row comes of a write to one
if and only if a row comes of it in the other. The ids that an entity is given by both translate into
each other as long as no entity is ambiguous, and no longer.
-/

namespace StorageLifecycle

open Relational

/-! ## Outcomes -/

namespace StoreM

variable {σ α β : Type}

theorem attempt_map (f : α → β) (m : StoreM σ α) (s : σ) :
    (f <$> m).attempt s = (m.attempt s).map fun p => (f p.1, p.2) := by
  unfold attempt
  rw [perform_map]
  cases m.perform s with
  | mk answer s' => cases answer <;> rfl

theorem attempt_writing (f : σ → Except StoreError (α × σ)) (s : σ) : (writing f).attempt s = f s := by
  unfold attempt perform writing
  cases f s <;> rfl

theorem perform_of_attempt {m : StoreM σ α} {s s' : σ} {a : α} (h : m.attempt s = .ok (a, s')) :
    m.perform s = (.ok a, s') := by
  unfold attempt at h
  cases hrun : m.perform s with
  | mk answer after =>
      rw [hrun] at h
      cases answer with
      | error e => exact nomatch h
      | ok b =>
          cases h
          rfl

/-- A change of the store that succeeds. -/
theorem attempt_change {f : σ → Except StoreError σ} {s s' : σ} (h : f s = .ok s') (b : β) :
    ((fun _ => b) <$> writing fun s => (f s).map ((), ·)).attempt s = .ok (b, s') := by
  rw [attempt_map, attempt_writing, h]
  rfl

end StoreM

/-! ## The relational side -/

namespace RelationalStore

variable {r : RelationalStore} {n k : Nat}

/-- A row of a test case that can be read can also be read when it is closed. -/
theorem legible_closedRow {row : TestCaseRow} (h : ∃ tc, row.read = .ok tc) (now : Instant)
    (success : Bool) : ∃ tc, (closedRow now success row).read = .ok tc := by
  obtain ⟨tc, h⟩ := h
  unfold TestCaseRow.read at h
  obtain ⟨started, hstarted, h⟩ := bind_of_ok h
  obtain ⟨ended, _, h⟩ := bind_of_ok h
  obtain ⟨name, hname, h⟩ := bind_of_ok h
  obtain ⟨runName, hrunName, h⟩ := bind_of_ok h
  unfold TestCaseRow.read closedRow
  simp only [hstarted, hname, hrunName]
  exact ⟨_, rfl⟩

theorem insertCount_of_room {c : CountSample} (hcase : r.hasTestCase c.testCase = true)
    (hcounted : r.counts.Counted CountRow.id k) (hn : k + 1 ≤ n) :
    UnlessFull n (fun r' => r' = { r with counts := r.counts.push (k + 1) (.ofSample (k + 1) c) })
      (r.insertCount c) := by
  refine (hcounted.next hn).bind fun id hid => ?_
  rw [hcase, if_pos rfl, hid]
  rfl

theorem insertEvent_of_room {e : Event} (hnew : ∀ row ∈ r.events.rows, row.name ≠ .text e.name)
    (hcase : r.hasTestCase e.testCase = true) (hentity : r.hasEntity e.entity = true)
    (hcounted : r.events.Counted EventRow.id k) (hn : k + 1 ≤ n) :
    UnlessFull n (fun r' => r' = { r with events := r.events.push (k + 1) (.ofEvent (k + 1) e) })
      (r.insertEvent e) := by
  have hfresh : ¬(r.events.rows.any fun row => row.name == .text e.name) = true := by
    simpa using hnew
  refine (hcounted.next hn).bind fun id hid => ?_
  rw [if_neg hfresh, hcase, hentity, Bool.and_self, if_pos rfl, hid]
  rfl

end RelationalStore

/-- Samples that are saved in both stores are the same there. -/
theorem SameCounts.saveCounts {counts : List CountSample} {r : RelationalStore} {n : Nat}
    (h : SameCounts counts r.counts) {batch : List CountSample}
    (hcase : ∀ c ∈ batch, r.hasTestCase c.testCase = true)
    (hfit : ∀ c ∈ batch, c.timestamp.OnCalendar ∧ ∀ n ∈ c.tally.toList, n < Word.bound 32)
    (hn : counts.length + batch.length ≤ n) :
    UnlessFull n (fun r' => ∃ table, r' = { r with counts := table } ∧
      SameCounts (counts ++ batch) table) (r.saveCounts batch) := by
  induction batch generalizing r counts with
  | nil => exact ⟨r.counts, rfl, (List.append_nil counts).symm ▸ h⟩
  | cons c rest ih =>
      obtain ⟨hc, hrest⟩ := List.forall_mem_cons.mp hcase
      obtain ⟨hcfit, hrestFit⟩ := List.forall_mem_cons.mp hfit
      have hlength : (counts ++ [c]).length = counts.length + 1 := List.length_append
      rw [List.length_cons] at hn
      unfold RelationalStore.saveCounts
      rw [List.foldlM_cons]
      refine (RelationalStore.insertCount_of_room hc h.counted (by omega)).bind fun r' hr' => ?_
      have hone : SameCounts (counts ++ [c]) r'.counts := by
        rw [hr']
        refine ⟨hlength ▸ h.counted.push rfl, ?_, ?_⟩
        · show (_ ++ [_]).map _ = _
          rw [List.map_append, List.map_append, h.rows]
          rfl
        · exact List.forall_mem_append.mpr ⟨h.fit, List.forall_mem_singleton.mpr hcfit⟩
      refine (ih hone (hr' ▸ hrest) hrestFit (by omega)).imp fun r'' hr'' => ?_
      obtain ⟨table, rfl, hsame⟩ := hr''
      rw [List.append_cons, hr']
      exact ⟨table, rfl, hsame⟩

/-- Events that are saved in both stores are the same there. -/
theorem SameEvents.saveEvents {f : EntityId → EntityId} {m : MemoryStore} {r : RelationalStore}
    {n : Nat} (h : SameEvents f m.events r.events) (hlast : m.lastEvent = m.events.length)
    {batch : List Event}
    (hknown : ∀ e ∈ batch, r.hasTestCase e.testCase = true ∧ r.hasEntity (f e.entity) = true)
    (hdated : ∀ e ∈ batch, e.timestamp.OnCalendar)
    (hnew : ∀ e ∈ batch, e.name ∉ m.events.map (·.name)) (hnodup : (batch.map (·.name)).Nodup)
    (hn : m.events.length + batch.length ≤ n) :
    UnlessFull n (fun r' => ∃ table, r' = { r with events := table } ∧
      SameEvents f (m.appendEvents batch).events table)
      (r.saveEvents (batch.map (Event.readdress f))) := by
  induction batch generalizing m r with
  | nil => exact ⟨r.events, rfl, h⟩
  | cons e rest ih =>
      obtain ⟨⟨hcase, hentity⟩, hrestKnown⟩ := List.forall_mem_cons.mp hknown
      obtain ⟨hedated, hrestDated⟩ := List.forall_mem_cons.mp hdated
      obtain ⟨henew, hrestNew⟩ := List.forall_mem_cons.mp hnew
      obtain ⟨hapart, hnodup⟩ := List.nodup_cons.mp hnodup
      have hlength : (m.appendEvents [e]).events.length = m.events.length + 1 := List.length_append
      have hfresh : ∀ row ∈ r.events.rows, row.name ≠ .text (e.readdress f).name := by
        rw [h.rows]
        intro row hrow heq
        obtain ⟨old, hold, rfl⟩ := List.mem_map.mp hrow
        exact henew (List.mem_map.mpr ⟨old, hold, Cell.text.inj heq⟩)
      rw [List.length_cons] at hn
      unfold RelationalStore.saveEvents
      rw [List.map_cons, List.foldlM_cons]
      refine (RelationalStore.insertEvent_of_room hfresh hcase hentity h.counted
        (by omega)).bind fun r' hr' => ?_
      have hone : SameEvents f (m.appendEvents [e]).events r'.events := by
        rw [hr']
        refine ⟨hlength ▸ h.counted.push rfl, ?_, ?_⟩
        · show _ ++ [_] = (_ ++ [_]).map _
          rw [List.map_append, h.rows, hlast]
          rfl
        · exact List.forall_mem_append.mpr ⟨h.dated, List.forall_mem_singleton.mpr hedated⟩
      have hlast' : (m.appendEvents [e]).lastEvent = (m.appendEvents [e]).events.length :=
        MemoryStore.counted_append hlast _
      refine (ih hone hlast' (hr' ▸ hrestKnown) hrestDated (MemoryStore.names_new_after hapart hrestNew)
        hnodup (by omega)).imp fun r'' hr'' => ?_
      obtain ⟨table, rfl, hsame⟩ := hr''
      exact ⟨table, hr' ▸ rfl, hsame⟩

/-- A batch of entities is saved one by one, until one is refused. -/
theorem RelationalStore.attempt_saveEntities_cons (r : RelationalStore) (e : Entity)
    (rest : List Entity) : (EventStore.saveEntities (e :: rest)).attempt r = (do
      let (id, r') ← r.insertEntity e
      let (ids, r'') ← (EventStore.saveEntities rest).attempt r'
      return (id :: ids, r'')) := by
  have hattempt : ∀ (batch : List Entity) (r : RelationalStore),
      (EventStore.saveEntities batch).attempt r =
        (r.insertEntities batch).1.map fun ids => (ids, (r.insertEntities batch).2) := by
    intro batch r
    have hperform : (EventStore.saveEntities batch).perform r = r.saveEntities batch := rfl
    rw [StoreM.attempt, hperform, saveEntities]
    generalize r.insertEntities batch = inserted
    obtain ⟨answer, r'⟩ := inserted
    cases answer <;> rfl
  rw [hattempt, insertEntities]
  cases r.insertEntity e with
  | error err => rfl
  | ok p =>
      obtain ⟨id, r'⟩ := p
      show _ = ((EventStore.saveEntities rest).attempt r').bind fun q => .ok (id :: q.1, q.2)
      rw [hattempt]
      dsimp only
      cases (r'.insertEntities rest).1 <;> rfl

/-- Events are the same as long as their entities go under the same ids. -/
theorem SameEvents.congr {f g : EntityId → EntityId} {events : List Event} {table : Table EventRow}
    (h : SameEvents f events table) (hsame : ∀ e ∈ events, f e.entity = g e.entity) :
    SameEvents g events table := by
  refine ⟨h.counted, h.rows.trans (List.map_congr_left fun e he => ?_), h.dated⟩
  rw [EventRow.translated, EventRow.translated, Event.readdress, Event.readdress, hsame e he]

section

variable {ids : List (EntityId × EntityId)} {entities : List Entity} {table : Table EntityRow}

theorem SameEntities.rows_append (h : SameEntities ids entities table)
    (added : List (EntityId × EntityId)) :
    table.rows = entities.map (EntityRow.translated (translateBy (ids ++ added))) := by
  refine h.rows.trans (List.map_congr_left fun e he => ?_)
  rw [EntityRow.translated, EntityRow.translated,
    translateBy_append ((h.given _).mpr (List.mem_map_of_mem he))]

/-- An entity that has a row uses up an id in the relational store. -/
theorem SameEntities.skip (h : SameEntities ids entities table) {i : EntityId}
    (hi : i ∈ ids.map Prod.fst) (j : EntityId) :
    SameEntities (ids ++ [(i, j)]) entities (table.skip (ids.length + 1)) where
  counted := by
    rw [List.length_append]
    exact h.counted.skip
  rows := h.rows_append _
  given k := by
    rw [List.map_append, List.mem_append, List.map_singleton, List.mem_singleton, ← h.given]
    exact or_iff_left_of_imp fun hk => hk ▸ hi

/-- An entity that has no row gets one in both stores. -/
theorem SameEntities.push (h : SameEntities ids entities table) {i : EntityId}
    (hi : i ∉ entities.map (·.id)) (e : Entity) :
    SameEntities (ids ++ [(i, (ids.length : Int) + 1)]) (entities ++ [{ e with id := i }])
      (table.push (ids.length + 1) (.ofEntity (ids.length + 1) e)) where
  counted := by
    rw [List.length_append]
    exact h.counted.push rfl
  rows := by
    show table.rows ++ [_] = _
    rw [List.map_append, h.rows_append [(i, (ids.length : Int) + 1)], List.map_singleton,
      EntityRow.translated, translateBy_new fun hmem => hi ((h.given i).mp hmem)]
    rfl
  given k := by
    rw [List.map_append, List.map_append, List.mem_append, List.mem_append, h.given]
    rfl

end

/-! ## Steps -/

namespace Twins

variable {t : Twins} {n : Nat}

/-- Each entity was given ids that translate into each other. -/
def Agreed (t : Twins) : Prop := ∀ p ∈ t.ids, p.2 = t.translate p.1

/-- How many rows were written. -/
def volume (t : Twins) : Nat :=
  t.memory.testCases.length + t.ids.length + t.memory.events.length + t.memory.counts.length

/-- What an operation makes of two stores that match. -/
structure Advances (t : Twins) (w : StoreWrite) (t' : Twins) : Prop where
  matching : t'.Matching
  memory : t'.memory = (w.run.perform t.memory).2
  volume : t'.volume = t.volume + w.size
  saved : t'.ids.length = t.ids.length + w.entities.length
  agreed : t'.Agreed ↔ t.Agreed ∧ w.Saves Unambiguous t.memory

/-- An operation that succeeds in memory. -/
theorem step_of_memory {w : StoreWrite} {ids : List EntityId} {memory : MemoryStore}
    {P : Twins → Prop} (hmemory : w.run.attempt t.memory = .ok (ids, memory))
    (hrelational : UnlessFull n (fun p => P ⟨memory, p.2, t.ids ++ ids.zip p.1⟩)
      ((w.readdress t.translate).run.attempt t.relational)) :
    UnlessFull n P (t.step w) := by
  unfold step
  rw [hmemory]
  exact hrelational.bind fun p hp => hp

/-- An operation that gives no ids and succeeds in memory. -/
theorem step_of_change {α : Type} {w : StoreWrite} {memory : MemoryStore} {P : Twins → Prop}
    {f : RelationalStore → Except StoreError (α × RelationalStore)}
    (hmemory : w.run.attempt t.memory = .ok ([], memory))
    (hwrite : (w.readdress t.translate).run = (fun _ => []) <$> StoreM.writing f)
    (hrelational : UnlessFull n (fun p => P ⟨memory, p.2, t.ids⟩) (f t.relational)) :
    UnlessFull n P (t.step w) := by
  refine step_of_memory hmemory ?_
  rw [hwrite, StoreM.attempt_map, StoreM.attempt_writing]
  refine hrelational.map fun p hp => ?_
  rw [List.zip_nil_left, List.append_nil]
  exact hp

/-! ## Test cases -/

theorem Matching.hasTestCase (h : t.Matching) {id : TestCaseId}
    (hid : id ∈ t.memory.testCases.map (·.id)) : t.relational.hasTestCase id = true := by
  rw [← h.testCases.ids] at hid
  exact RelationalStore.hasTestCase_iff.mpr (List.mem_map.mp hid)

theorem Matching.createTestCase (h : t.Matching) (tc : TestCase) (hn : t.volume + 1 ≤ n) :
    UnlessFull n (t.Advances (.createTestCase tc)) (t.step (.createTestCase tc)) := by
  have hroom : t.memory.testCases.length + 1 ≤ n := by
    unfold volume at hn
    omega
  refine step_of_change (f := fun r => r.createTestCase tc) rfl rfl ?_
  refine (h.testCases.counted.next hroom).bind fun id hid => ?_
  subst hid
  have hlength : (t.memory.testCases ++ [{ tc with id := t.memory.lastTestCase + 1 }]).length =
      t.memory.testCases.length + 1 := List.length_append
  refine ⟨⟨h.regular.createTestCase tc, ⟨?_, ?_, ?_⟩, h.entities, h.events, h.counts⟩, rfl, ?_, rfl, ?_⟩
  · exact hlength ▸ h.testCases.counted.push rfl
  · show (_ ++ [_]).map _ = (_ ++ [_]).map _
    rw [List.map_append, List.map_append, h.testCases.ids, h.regular.lastTestCase]
    rfl
  · refine List.forall_mem_append.mpr ⟨h.testCases.legible, List.forall_mem_singleton.mpr ?_⟩
    exact ⟨_, rfl⟩
  · unfold volume
    show (t.memory.testCases ++ [_]).length + _ + _ + _ = _
    rw [hlength]
    simp only [StoreWrite.size]
    omega
  · exact (and_iff_left trivial).symm

theorem Matching.finishTestCase (h : t.Matching) {id : TestCaseId}
    (hid : id ∈ t.memory.testCases.map (·.id)) (success : Bool) (now : Instant) :
    UnlessFull n (t.Advances (.finishTestCase id success now))
      (t.step (.finishTestCase id success now)) := by
  obtain ⟨testCases, hclose⟩ := MemoryStore.closeFirst_of_mem hid success now
  have hfinish : t.memory.finishTestCase id success now = .ok { t.memory with testCases } := by
    unfold MemoryStore.finishTestCase
    rw [hclose]
  have hmemory : (StoreWrite.finishTestCase id success now).run.attempt t.memory =
      .ok ([], { t.memory with testCases }) := StoreM.attempt_change hfinish _
  have hwritten := congrArg Prod.snd (StoreM.perform_of_attempt hmemory)
  have hstays := MemoryStore.stays_of_closeFirst hclose
  have hids : (t.relational.testCases.rows.map fun r =>
      if r.id = id then RelationalStore.closedRow now success r else r).map TestCaseRow.id =
        t.relational.testCases.rows.map TestCaseRow.id := by
    rw [List.map_map]
    refine List.map_congr_left fun r _ => ?_
    rw [Function.comp_apply]
    split <;> rfl
  refine step_of_change (f := fun r => (r.finishTestCase id success now).map ((), ·)) hmemory rfl ?_
  show UnlessFull n _ ((if _ then _ else _ : Except StoreError RelationalStore).map ((), ·))
  rw [if_pos (h.hasTestCase hid)]
  refine ⟨⟨h.regular.written (.closed hclose), ⟨?_, ?_, ?_⟩, h.entities, h.events, h.counts⟩,
    hwritten.symm, ?_, rfl, (and_iff_left trivial).symm⟩
  · exact hstays.length_eq ▸ h.testCases.counted.of_ids hids
  · exact hids.trans (h.testCases.ids.trans (MemoryStore.ids_of_stays hstays).symm)
  · refine List.forall_mem_map.mpr fun r hr => ?_
    split
    · exact RelationalStore.legible_closedRow (h.testCases.legible r hr) now success
    · exact h.testCases.legible r hr
  · unfold volume
    rw [hstays.length_eq]
    rfl

/-! ## Samples and events -/

theorem Matching.saveCounts (h : t.Matching) {batch : List CountSample}
    (hfits : (StoreWrite.saveCounts batch).Fits t.memory) (hn : t.volume + batch.length ≤ n) :
    UnlessFull n (t.Advances (.saveCounts batch)) (t.step (.saveCounts batch)) := by
  have hroom : t.memory.counts.length + batch.length ≤ n := by
    unfold volume at hn
    omega
  have hcase : ∀ c ∈ batch, t.relational.hasTestCase c.testCase = true :=
    fun c hc => h.hasTestCase (hfits c hc).1
  refine step_of_change (f := fun r => (r.saveCounts batch).map ((), ·)) rfl rfl ?_
  refine (h.counts.saveCounts hcase (fun c hc => (hfits c hc).2) hroom).map fun r hr => ?_
  obtain ⟨table, rfl, hsame⟩ := hr
  refine ⟨⟨h.regular.written (.counts batch), h.testCases, h.entities, h.events, hsame⟩, rfl, ?_, rfl,
    (and_iff_left trivial).symm⟩
  unfold volume
  show _ + (t.memory.counts ++ batch).length = _
  rw [List.length_append]
  exact (Nat.add_assoc _ _ _).symm

theorem Matching.hasEntity (h : t.Matching) {id : EntityId}
    (hid : id ∈ t.memory.entities.map (·.id)) :
    t.relational.hasEntity (t.translate id) = true := by
  obtain ⟨e, he, rfl⟩ := List.mem_map.mp hid
  refine RelationalStore.hasEntity_iff.mpr ⟨.translated t.translate e, ?_, rfl⟩
  rw [h.entities.rows]
  exact List.mem_map_of_mem he

theorem Matching.saveEvents (h : t.Matching) {batch : List Event}
    (hfits : (StoreWrite.saveEvents batch).Fits t.memory) (hn : t.volume + batch.length ≤ n) :
    UnlessFull n (t.Advances (.saveEvents batch)) (t.step (.saveEvents batch)) := by
  have hroom : t.memory.events.length + batch.length ≤ n := by
    unfold volume at hn
    omega
  obtain ⟨hbatch, hnodup⟩ := hfits
  have hknown : ∀ e ∈ batch, e.entity ∈ t.memory.entities.map (·.id) := fun e he => (hbatch e he).2.1
  have hnew : ∀ e ∈ batch, e.name ∉ t.memory.events.map (·.name) := fun e he => (hbatch e he).2.2.2
  have hsave : t.memory.saveEvents batch = .ok (t.memory.appendEvents batch) := by
    unfold MemoryStore.saveEvents
    rw [MemoryStore.checkEvents_eq_ok_iff.mpr ⟨hknown, hnodup, hnew⟩]
  have hmemory : (StoreWrite.saveEvents batch).run.attempt t.memory =
      .ok ([], t.memory.appendEvents batch) := StoreM.attempt_change hsave _
  have hwritten := congrArg Prod.snd (StoreM.perform_of_attempt hmemory)
  obtain ⟨added, hevents, htrace, _, hentities, _, hcounts, hcases⟩ := MemoryStore.saveEvents_of_ok hsave
  refine step_of_change
    (f := fun r => (r.saveEvents (batch.map (Event.readdress t.translate))).map ((), ·)) hmemory rfl ?_
  refine (h.events.saveEvents h.regular.lastEvent (fun e he => ?_) (fun e he => (hbatch e he).2.2.1) hnew
    hnodup hroom).map fun r hr => ?_
  · exact ⟨h.hasTestCase (hbatch e he).1, h.hasEntity (hknown e he)⟩
  obtain ⟨table, rfl, hsame⟩ := hr
  refine ⟨⟨h.regular.appendEvents hknown hnodup hnew, ?_, ?_, hsame, ?_⟩, hwritten.symm, ?_, rfl,
    (and_iff_left trivial).symm⟩
  · exact hcases ▸ h.testCases
  · exact hentities ▸ h.entities
  · exact hcounts ▸ h.counts
  · have hlength : added.length = batch.length := by simpa using congrArg List.length htrace
    unfold volume
    rw [hcases, hcounts, hevents, List.length_append, hlength]
    simp only [StoreWrite.size]
    omega

/-! ## Entities -/

/-- Saving an entity keeps stores that match matching if they have the same rows of entities after it. -/
theorem Matching.advances_of_saved (h : t.Matching) {e : Entity} {j : EntityId} {table : Table EntityRow}
    (hentities : SameEntities (t.ids ++ [((t.memory.saveEntity e).1, j)])
      (t.memory.saveEntity e).2.entities table)
    (hsame : j = translateBy (t.ids ++ [((t.memory.saveEntity e).1, j)]) (t.memory.saveEntity e).1 ↔
      Unambiguous t.memory e) (resolved : Nat) :
    t.Advances (.saveEntities [e]) ⟨(t.memory.saveEntity e).2,
      { t.relational with entities := table, resolved },
      t.ids ++ [((t.memory.saveEntity e).1, j)]⟩ := by
  obtain ⟨hevents, hcounts, hcases⟩ := MemoryStore.saveEntity_events t.memory e
  have hlength : (t.ids ++ [((t.memory.saveEntity e).1, j)]).length = t.ids.length + 1 :=
    List.length_append
  refine ⟨⟨h.regular.saveEntity e, ?_, hentities, ?_, ?_⟩, rfl, ?_, hlength, ?_⟩
  · exact hcases ▸ h.testCases
  · show SameEvents _ (t.memory.saveEntity e).2.events _
    rw [hevents]
    refine h.events.congr fun ev hev => (translateBy_append ?_ _).symm
    exact (h.entities.given _).mpr (h.regular.known ev hev)
  · exact hcounts ▸ h.counts
  · unfold volume
    rw [hcases, hevents, hcounts, hlength]
    simp only [StoreWrite.size, List.length_singleton]
    omega
  · have hagreed : ∀ p ∈ t.ids,
        (p.2 = translateBy (t.ids ++ [((t.memory.saveEntity e).1, j)]) p.1 ↔ p.2 = t.translate p.1) := by
      intro p hp
      rw [translateBy_append (List.mem_map_of_mem hp)]
      rfl
    unfold Agreed
    rw [List.forall_mem_append, List.forall_mem_singleton]
    refine and_congr (forall₂_congr hagreed) (hsame.trans ?_)
    exact (and_iff_left trivial).symm

/-- An entity is saved in both stores. -/
theorem Matching.saveEntity (h : t.Matching) {e : Entity}
    (hcase : e.testCase ∈ t.memory.testCases.map (·.id)) (hn : t.volume + 1 ≤ n) :
    UnlessFull n (fun p => t.Advances (.saveEntities [e])
      ⟨(t.memory.saveEntity e).2, p.2, t.ids ++ [((t.memory.saveEntity e).1, p.1)]⟩)
      (t.relational.insertEntity e) := by
  have hroom : t.ids.length + 1 ≤ n := by
    unfold volume at hn
    omega
  have hnumber := h.entities.counted.next hroom
  cases hnext : t.relational.entities.next EntityRow.id with
  | error err =>
      rw [hnext] at hnumber
      rw [RelationalStore.insertEntity_of_full hnext]
      exact hnumber
  | ok next =>
      rw [hnext] at hnumber
      have hid : next = (t.ids.length : Int) + 1 := hnumber
      subst hid
      cases hfind : t.memory.findExisting e with
      | some i =>
          obtain ⟨j, hj, hsame⟩ := h.entities.findExisting_of_some h.regular hfind
          have hi : i ∈ t.ids.map Prod.fst := by
            obtain ⟨row, hrow, rfl⟩ := Option.map_eq_some_iff.mp hfind
            exact (h.entities.given _).mpr (List.mem_map_of_mem (List.mem_of_find?_eq_some hrow))
          have hsaved := MemoryStore.saveEntity_of_existing hfind
          rw [RelationalStore.insertEntity_of_existing hnext hj]
          refine h.advances_of_saved ?_ ?_ _
          · rw [hsaved]
            exact h.entities.skip hi j
          · rw [hsaved, translateBy_append hi]
            exact hsame
      | none =>
          have hj := h.entities.findExisting_of_none hfind
          have hnone := MemoryStore.findExisting_eq_none_iff.mp hfind
          have hsaved := MemoryStore.saveEntity_of_new hfind
          have hi := h.regular.next_new
          rw [RelationalStore.insertEntity_of_new hnext hj, if_pos (h.hasTestCase hcase)]
          refine h.advances_of_saved ?_ ?_ _
          · rw [hsaved]
            exact h.entities.push hi e
          · rw [hsaved, translateBy_new fun hmem => hi ((h.entities.given _).mp hmem)]
            exact iff_of_true rfl fun row hrow hkey => absurd hkey (hnone row hrow).1

/-- An entity is saved, and then the rest of the batch. -/
theorem Advances.cons {t' t'' : Twins} {e : Entity} {rest : List Entity}
    (h : t.Advances (.saveEntities [e]) t') (h' : t'.Advances (.saveEntities rest) t'') :
    t.Advances (.saveEntities (e :: rest)) t'' where
  matching := h'.matching
  memory := by
    rw [h'.memory, h.memory]
    rfl
  volume := by
    rw [h'.volume, h.volume, Nat.add_assoc]
    exact congrArg _ (Nat.add_comm _ _)
  saved := by
    rw [h'.saved, h.saved, Nat.add_assoc]
    exact congrArg _ (Nat.add_comm _ _)
  agreed := by
    rw [h'.agreed, h.agreed, and_assoc, h.memory]
    exact and_congr_right fun _ => and_congr_left fun _ => and_iff_left trivial

theorem Matching.saveEntities (h : t.Matching) {batch : List Entity}
    (hfits : (StoreWrite.saveEntities batch).Fits t.memory) (hn : t.volume + batch.length ≤ n) :
    UnlessFull n (fun p => t.Advances (.saveEntities batch)
      ⟨(t.memory.saveEntities batch).2, p.2, t.ids ++ (t.memory.saveEntities batch).1.zip p.1⟩)
      ((EventStore.saveEntities batch).attempt t.relational) := by
  induction batch generalizing t with
  | nil =>
      show t.Advances (.saveEntities []) ⟨t.memory, t.relational, t.ids ++ []⟩
      rw [List.append_nil]
      exact ⟨h, rfl, rfl, rfl, (and_iff_left trivial).symm⟩
  | cons e rest ih =>
      obtain ⟨he, hrest⟩ := List.forall_mem_cons.mp hfits
      rw [List.length_cons] at hn
      rw [RelationalStore.attempt_saveEntities_cons]
      refine (h.saveEntity he (by omega)).bind fun p hp => ?_
      obtain ⟨id, r⟩ := p
      have hcases := (MemoryStore.saveEntity_events t.memory e).2.2
      have hvolume : _ = t.volume + 1 := hp.volume
      have hrest' : (StoreWrite.saveEntities rest).Fits (t.memory.saveEntity e).2 := by
        unfold StoreWrite.Fits
        rw [hcases]
        exact hrest
      refine (ih hp.matching hrest' (by omega)).bind fun q hq => ?_
      have hall := hp.cons hq
      rw [List.append_assoc] at hall
      exact hall

/-! ## Runs -/

theorem Matching.step (h : t.Matching) {w : StoreWrite} (hfits : w.Fits t.memory)
    (hn : t.volume + w.size ≤ n) : UnlessFull n (t.Advances w) (t.step w) := by
  cases w with
  | saveEntities batch => exact step_of_memory rfl (h.saveEntities hfits hn)
  | saveEvents batch => exact h.saveEvents hfits hn
  | saveCounts batch => exact h.saveCounts hfits hn
  | createTestCase tc => exact h.createTestCase tc hn
  | finishTestCase id success now => exact h.finishTestCase hfits success now

/-- Stores that match go on matching, and all entities agree if and only if none was ambiguous when it
was saved. -/
theorem Matching.run (h : t.Matching) {ws : List StoreWrite}
    (hfit : StoreWrite.Along StoreWrite.Fits t.memory ws)
    (hn : t.volume + StoreWrite.sizes ws ≤ n) :
    UnlessFull n (fun t' => t'.Matching ∧
      t'.ids.length = t.ids.length + (ws.flatMap StoreWrite.entities).length ∧
      (t'.Agreed ↔ t.Agreed ∧ StoreWrite.Along (StoreWrite.Saves Unambiguous) t.memory ws))
      (t.run ws) := by
  induction ws generalizing t with
  | nil => exact ⟨h, rfl, (and_iff_left trivial).symm⟩
  | cons w rest ih =>
      obtain ⟨hw, hrest⟩ := hfit
      rw [StoreWrite.sizes] at hn
      unfold Twins.run
      rw [List.foldlM_cons]
      refine (h.step hw (by omega)).bind fun t' ht' => ?_
      have hvolume := ht'.volume
      rw [← ht'.memory] at hrest
      refine (ih ht'.matching hrest (by omega)).imp fun t'' ht'' => ?_
      obtain ⟨hmatching, hsaved, hagreed⟩ := ht''
      refine ⟨hmatching, ?_, ?_⟩
      · rw [hsaved, ht'.saved, List.flatMap_cons, List.length_append, Nat.add_assoc]
      · rw [hagreed, ht'.agreed, and_assoc, ht'.memory]
        rfl

end Twins

end StorageLifecycle
