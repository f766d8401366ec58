import StorageLifecycle.Proofs.Backends.Rows
import StorageLifecycle.Proofs.Ensemble.Tracing

/-!
# No stage is left out

What is collected while and after the sessions of a test case work measures every stage of every entity,
however the clock went: no duration runs backwards, and so statistics leave nothing out. It is so over both
stores, and in every order in which the sessions had their turns.
-/

namespace StorageLifecycle

open CaseMetrics Relational

variable {σ : Type} [EventStore σ]

/-- The store has nothing of the test case. -/
def HasNothing (s : σ) (id : TestCaseId) : Prop :=
  (EventStore.entities id).perform s = (.ok [], s) ∧ (EventStore.events id).perform s = (.ok [], s)

theorem Answers.hasNothing_iff {s : σ} {entities : List Entity} {log : List Event} {id : TestCaseId}
    (h : Answers s entities log) :
    HasNothing s id ↔ (∀ x ∈ entities, x.testCase ≠ id) ∧ ∀ e ∈ log, e.testCase ≠ id := by
  rw [HasNothing, h.own, h.events]
  constructor
  · rintro ⟨hentities, hevents⟩
    have hentities := Except.ok.inj (Prod.mk.inj hentities).1
    have hevents := Except.ok.inj (Prod.mk.inj hevents).1
    constructor
    · exact fun x hx hcase => List.filter_eq_nil_iff.mp hentities x hx (beq_iff_eq.mpr hcase)
    · exact fun e he hcase => List.filter_eq_nil_iff.mp hevents e he (beq_iff_eq.mpr hcase)
  · rintro ⟨hentities, hevents⟩
    constructor
    · rw [List.filter_eq_nil_iff.mpr fun x hx hcase => hentities x hx (eq_of_beq hcase)]
    · rw [List.filter_eq_nil_iff.mpr fun e he hcase => hevents e he (eq_of_beq hcase)]

/-- What is collected for the test case deals out these rows, and no stage of them is left out. -/
def MeasuresAll (s : σ) (id : TestCaseId) (entities : List Entity) (log : List Event) : Prop :=
  ∃ answer, CaseMetrics.collect id s = (answer, s) ∧ Dealt entities log id answer ∧
    ∀ m, answer = .ok m → m.Covers entities log id

/-- How many entities have both ends of a stage among the events, for each stage. -/
def bothEnds (entities : List Entity) (log : List Event) (id : TestCaseId) : List Nat :=
  Stage.all.map fun stage => entities.countP fun x =>
    logged log id x stage.bounds.1 && logged log id x stage.bounds.2

/-- If there is an event of the test case, there are metrics with these counts. -/
theorem MeasuresAll.counts {s : σ} {id : TestCaseId} {entities : List Entity} {log : List Event}
    (h : MeasuresAll s id entities log) (hsome : log.any (·.testCase == id) = true) :
    ∃ m, CaseMetrics.collect id s = (.ok m, s) ∧
      Stage.all.map (fun stage => (m.stage stage).count) = bothEnds entities log id := by
  obtain ⟨answer, hcollect, hdealt, hcovers⟩ := h
  cases hdealt with
  | nothing _ hnone =>
      obtain ⟨e, he, hcase⟩ := List.any_eq_true.mp hsome
      exact absurd (eq_of_beq hcase) (hnone e he)
  | metrics _ _ => exact ⟨_, hcollect, List.map_congr_left fun stage _ => (hcovers _ rfl).count stage⟩

/-- It is so over every store that does with its rows what it should. -/
theorem RowReading.Lawful.measuresAll {v : RowReading σ} (hv : v.Lawful) {w : Shared σ} {id : TestCaseId}
    {feeds : Feeds} (hsound : v.sound w.store) (hnone : HasNothing w.store id)
    (hadmits : ∀ k, ∀ item ∈ feeds.items k, v.Admits item)
    (hone : OneName feeds.owners) (schedule : List ObserverKind) :
    let e := (Ensemble.assemble id feeds w).run schedule
    (e.member .attachment).session.Apart →
      v.sound e.shared.store ∧
        MeasuresAll e.shared.store id (v.entities e.shared.store) (v.log e.shared.store) := by
  intro e hapart
  obtain ⟨hentities, hlog⟩ := (hv.answers hsound).hasNothing_iff.mp hnone
  have htraced : Traced v id feeds e :=
    (Traced.assemble hsound hentities hlog).run hv hadmits schedule
  exact ⟨htraced.owned.sound,
    (hv.answers htraced.owned.sound).collect_covers (htraced.timely hv hone hapart)⟩

/-- The calendar reaches the moments of what is fed, and counts have 32 bits. -/
def Feeds.InRange (feeds : Feeds) : Prop :=
  (∀ n ∈ feeds.claims ++ feeds.pods ++ feeds.attachments, n.observedAt.OnCalendar) ∧
    ∀ l ∈ feeds.listings, l.observedAt.OnCalendar ∧
      ∀ n ∈ (Tally.ofListings l.pods l.claims).toList, n < Word.bound 32

instance (feeds : Feeds) : Decidable feeds.InRange :=
  inferInstanceAs (Decidable ((∀ n ∈ feeds.claims ++ feeds.pods ++ feeds.attachments,
    n.observedAt.OnCalendar) ∧ ∀ l ∈ feeds.listings, l.observedAt.OnCalendar ∧
      ∀ n ∈ (Tally.ofListings l.pods l.claims).toList, n < Word.bound 32))

theorem Feeds.InRange.admits {feeds : Feeds} (h : feeds.InRange) (k : ObserverKind) :
    ∀ item ∈ feeds.items k, RelationalStore.reading.Admits item := by
  obtain ⟨hmoments, hlistings⟩ := h
  cases k with
  | claim =>
      exact List.forall_mem_map.mpr fun n hn =>
        hmoments n (List.mem_append_left _ (List.mem_append_left _ hn))
  | pod =>
      exact List.forall_mem_map.mpr fun n hn =>
        hmoments n (List.mem_append_left _ (List.mem_append_right _ hn))
  | attachment => exact List.forall_mem_map.mpr fun n hn => hmoments n (List.mem_append_right _ hn)
  | count => exact List.forall_mem_map.mpr hlistings

theorem MemoryStore.admits (item : Session.Item) : MemoryStore.reading.Admits item := by
  cases item with
  | notification n => trivial
  | listing l => exact ⟨trivial, trivial⟩

/-- Whatever is told to the sessions of a test case that the store has nothing of, in which order they have
their turns and however the clock goes: as long as different names of one type have different UIDs, and the
events of different attachments are recorded for different claims, each stage counts all entities with both
of its ends, and no duration runs backwards. In the relational store the rows are what is read of them, with
moments at whole microseconds. -/
theorem stages_measured (calls : List StoreCall) (id : TestCaseId) (feeds : Feeds)
    (hone : OneName feeds.owners) (registry : Registry) (supply : Supply)
    (signals : List Signal) (schedule : List ObserverKind) :
    (let initial := StoreCall.afterAll MemoryStore.empty calls
      let e := (Ensemble.assemble id feeds ⟨initial, registry, supply, signals⟩).run schedule
      let m := e.shared.store
      HasNothing initial id → (e.member .attachment).session.Apart →
        MeasuresAll m id m.entities m.events) ∧
    ((∀ c ∈ calls, c.InRange) → feeds.InRange →
      let initial := StoreCall.afterAll RelationalStore.empty calls
      let e := (Ensemble.assemble id feeds ⟨initial, registry, supply, signals⟩).run schedule
      let s := e.shared.store
      HasNothing initial id → (e.member .attachment).session.Apart →
        ∃ entities log, s.entities.rows.mapM EntityRow.read = .ok entities ∧
          s.events.rows.mapM EventRow.read = .ok log ∧ MeasuresAll s id entities log) := by
  constructor
  · intro initial e m hnone hapart
    exact (MemoryStore.reading_lawful.measuresAll (w := ⟨initial, registry, supply, signals⟩)
      (MemoryStore.regular_empty.afterAll calls) hnone (fun _ item _ => MemoryStore.admits item) hone
      schedule hapart).2
  · intro hcalls hrange initial e s hnone hapart
    obtain ⟨hlegible, hmeasures⟩ := RelationalStore.reading_lawful.measuresAll
      (w := ⟨initial, registry, supply, signals⟩) (RelationalStore.legible_empty.afterAll hcalls) hnone
      hrange.admits hone schedule hapart
    refine ⟨_, _, ?_, ?_, hmeasures⟩
    · exact RelationalStore.mapM_read fun r hr => (RelationalStore.Legible.read_entity hlegible hr).1
    · exact RelationalStore.mapM_read fun r hr => (RelationalStore.Legible.read_event hlegible hr).1

/-- A claim that an earlier test case has stored. -/
def claimStoredBefore : List StoreCall :=
  [.write (.createTestCase (.fresh "a" "run" ⟨0⟩)), .write (.saveEntities [.fresh "data" "u1" .pvc 1]),
    .write (.saveEvents [⟨none, "x", 1, 1, .pvcAdded, ⟨0⟩⟩]), .write (.createTestCase (.fresh "b" "run" ⟨0⟩))]

/-- The clock goes back from one notification to the next. -/
def backwards : Feeds where
  claims := [⟨.added, some (.claim ⟨"data", "u1", none, none, none⟩), ⟨5000⟩⟩,
    ⟨.modified, some (.claim ⟨"data", "u1", some "Bound", some "pv", none⟩), ⟨4000⟩⟩,
    ⟨.deleted, some (.claim ⟨"data", "u1", some "Bound", some "pv", none⟩), ⟨3000⟩⟩]
  pods := [⟨.added, some (.pod ⟨"web", "u2", none, false, none⟩), ⟨9000⟩⟩,
    ⟨.modified, some (.pod ⟨"web", "u2", some "Running", true, none⟩), ⟨-7000⟩⟩]
  attachments := [Session.sighting "va" false 8000, Session.sighting "va" true 6500]
  listings := [⟨[], [], ⟨3⟩⟩]

/-- The attachment is seen before its claim is bound, and its session is the first to end. -/
def attachmentFirst : List ObserverKind :=
  [.attachment, .attachment, .pod, .claim, .claim, .count, .pod, .claim]

/-- The four sessions of the second test case, over a store of either kind. -/
def secondCase (calls : List StoreCall) (empty : σ) : Ensemble σ :=
  Ensemble.assemble 2 backwards ⟨StoreCall.afterAll empty calls, .empty, .counting, []⟩

/-- The clock goes back all along, the attachment waits for its claim, and the claim is in the row of an
earlier test case. Both stores still count its creation and its attachment, and the creation of the
pod. -/
theorem stages_measured_backwards :
    let schedule := attachmentFirst ++ .attachment :: [.pod, .count, .claim]
    let inMemory := (secondCase claimStoredBefore MemoryStore.empty).run schedule
    let inTables := (secondCase claimStoredBefore RelationalStore.empty).run schedule
    OneName backwards.owners ∧ (∀ c ∈ claimStoredBefore, c.InRange) ∧ backwards.InRange ∧
      (inMemory.member .attachment).session.Apart ∧ (inTables.member .attachment).session.Apart ∧
      MeasuresAll inMemory.shared.store 2 inMemory.shared.store.entities inMemory.shared.store.events ∧
      (∃ m, CaseMetrics.collect 2 inMemory.shared.store = (.ok m, inMemory.shared.store) ∧
        Stage.all.map (fun stage => (m.stage stage).count) = [1, 1, 0, 0, 1, 0]) ∧
      ∃ entities log, inTables.shared.store.entities.rows.mapM EntityRow.read = .ok entities ∧
        inTables.shared.store.events.rows.mapM EventRow.read = .ok log ∧
        MeasuresAll inTables.shared.store 2 entities log ∧
        ∃ m, CaseMetrics.collect 2 inTables.shared.store = (.ok m, inTables.shared.store) ∧
          Stage.all.map (fun stage => (m.stage stage).count) = [1, 1, 0, 0, 1, 0] := by
  intro schedule inMemory inTables
  have hone : OneName backwards.owners := by
    unfold OneName
    decide +kernel
  have hcalls : ∀ c ∈ claimStoredBefore, c.InRange := by decide +kernel
  have hrange : backwards.InRange := by decide +kernel
  have hrunMemory : inMemory = _ := Ensemble.run_eq_runUnsorted (by decide +kernel)
  have hrunTables : inTables = _ := Ensemble.run_eq_runUnsorted (by decide +kernel)
  have hmemory : (inMemory.member .attachment).session.Apart := by
    rw [hrunMemory]
    decide +kernel
  have htables : (inTables.member .attachment).session.Apart := by
    rw [hrunTables]
    decide +kernel
  obtain ⟨hinMemory, hinTables⟩ :=
    stages_measured claimStoredBefore 2 backwards hone .empty .counting [] schedule
  have hmeasured := hinMemory ⟨by decide +kernel, by decide +kernel⟩ hmemory
  obtain ⟨entities, log, hentities, hlog, hread⟩ :=
    hinTables hcalls hrange ⟨by decide +kernel, by decide +kernel⟩ htables
  replace hentities : inTables.shared.store.entities.rows.mapM EntityRow.read = .ok entities := hentities
  replace hlog : inTables.shared.store.events.rows.mapM EventRow.read = .ok log := hlog
  have hstored : inMemory.shared.store.events.any (·.testCase == 2) = true ∧
      bothEnds inMemory.shared.store.entities inMemory.shared.store.events 2 = [1, 1, 0, 0, 1, 0] := by
    rw [hrunMemory]
    decide +kernel
  have hrows : (do
      let entities ← inTables.shared.store.entities.rows.mapM EntityRow.read
      let log ← inTables.shared.store.events.rows.mapM EventRow.read
      return (log.any (·.testCase == 2), bothEnds entities log 2)) = .ok (true, [1, 1, 0, 0, 1, 0]) := by
    rw [hrunTables]
    decide +kernel
  rw [hentities, hlog] at hrows
  obtain ⟨hsome, hcounts⟩ := Prod.mk.inj (Except.ok.inj hrows)
  refine ⟨hone, hcalls, hrange, hmemory, htables, hmeasured, ?_, entities, log, hentities, hlog, hread, ?_⟩
  · rw [← hstored.2]
    exact hmeasured.counts hstored.1
  · rw [← hcounts]
    exact hread.counts hsome

end StorageLifecycle
