import StorageLifecycle.Proofs.Backends.Legible
import StorageLifecycle.Proofs.Store.Identity

/-!
# What both stores collect

Whatever was written to a store and whatever it refused, what is collected for a test case deals out the
rows of this test case. Both stores answer the questions of a collection from their rows: the one in
memory because ids count its rows, the relational one because each of its rows can be read back.
-/

namespace StorageLifecycle

open Relational

theorem MemoryStore.Regular.answers {m : MemoryStore} (h : m.Regular) :
    Answers m m.entities m.events :=
  MemoryStore.answers (h.entityIds ▸ MemoryStore.numbers_ascending _) h.known

namespace CaseMetrics

/-- After every sequence of calls, the refused ones among them, what is collected for a test case deals
out the stored events of this test case, and there is nothing to collect only when nothing was stored. In
the relational store the rows are what is read of them, for which moments must be on the calendar and
counts must have 32 bits. -/
theorem collect_partitions (calls : List StoreCall) (id : TestCaseId) :
    (let m := StoreCall.afterAll MemoryStore.empty calls
      ∃ answer, collect id m = (answer, m) ∧ Dealt m.entities m.events id answer) ∧
    ((∀ c ∈ calls, c.InRange) →
      let s := StoreCall.afterAll RelationalStore.empty calls
      ∃ entities log, s.entities.rows.mapM EntityRow.read = .ok entities ∧
        s.events.rows.mapM EventRow.read = .ok log ∧
        ∃ answer, collect id s = (answer, s) ∧ Dealt entities log id answer) := by
  constructor
  · exact (MemoryStore.regular_empty.afterAll calls).answers.collect_dealt id
  · intro hcalls
    have hlegible := RelationalStore.legible_empty.afterAll hcalls
    refine ⟨_, _, ?_, ?_, hlegible.answers.collect_dealt id⟩
    · exact RelationalStore.mapM_read fun r hr => (hlegible.read_entity hr).1
    · exact RelationalStore.mapM_read fun r hr => (hlegible.read_event hr).1

/-- A claim of the first test case is deleted in the second one, which has a pod of its own. A batch that
repeats an event is refused. -/
theorem collect_partitions_carried :
    let event (name : String) (type : EventType) (testCase : TestCaseId) (entity : EntityId)
        (nanos : Int) : Event := ⟨none, name, testCase, entity, type, ⟨nanos⟩⟩
    let calls := [StoreCall.write (.createTestCase (.fresh "a" "run" ⟨0⟩)),
      .write (.saveEntities [.fresh "data" "u1" .pvc 1]),
      .write (.saveEvents [event "x1" .pvcAdded 1 1 0, event "x2" .pvcBound 1 1 2000]),
      .write (.createTestCase (.fresh "b" "run" ⟨3000⟩)),
      .write (.saveEntities [.fresh "web" "u2" .pod 2, .fresh "data" "u1" .pvc 2]),
      .write (.saveEvents [event "y1" .pvcDeletingEnded 2 1 9000, event "y2" .podAdded 2 2 4000,
        event "y3" .pvcDeletingStarted 2 1 5000]),
      .write (.saveEvents [event "y1" .podReady 2 2 6000])]
    let m := StoreCall.afterAll MemoryStore.empty calls
    let s := StoreCall.afterAll RelationalStore.empty calls
    (m.entities.map fun x => (x.id, x.testCase)) = [(1, 1), (2, 2)] ∧
      (∀ c ∈ calls, c.InRange) ∧
      (∃ answer, collect 2 m = (answer, m) ∧ Dealt m.entities m.events 2 answer) ∧
      ∃ entities log, s.entities.rows.mapM EntityRow.read = .ok entities ∧
        s.events.rows.mapM EventRow.read = .ok log ∧
        ∃ answer, collect 2 s = (answer, s) ∧ Dealt entities log 2 answer := by
  intro event calls
  have hrange : ∀ c ∈ calls, c.InRange := by decide +kernel
  obtain ⟨hmemory, hrelational⟩ := collect_partitions calls 2
  exact ⟨by decide +kernel, hrange, hmemory, hrelational hrange⟩

end CaseMetrics

end StorageLifecycle
