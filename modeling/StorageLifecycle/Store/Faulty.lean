import StorageLifecycle.Store.Basic

/-!
# A store that fails on demand

A plan says which operations answer with an error instead of reaching the store, and how often.
-/

namespace StorageLifecycle

/-- The operations of a store, by name. -/
inductive StoreMethod where
  | saveEntities
  | saveEvents
  | saveCounts
  | createTestCase
  | finishTestCase
  | testCase
  | testCasesOfRun
  | entities
  | entitiesById
  | events
  | counts
deriving DecidableEq, Repr

/-- An error that an operation answers with: so many more times, or always. -/
structure Fault where
  error : StoreError
  times : Option Nat
deriving DecidableEq, Repr

/-- A store and the plan of its faults. -/
structure Faulty (σ : Type) where
  store : σ
  plan : List (StoreMethod × Fault)
deriving DecidableEq, Repr

namespace Faulty

variable {σ α : Type}

/-- A store that does not fail on its own account yet. -/
def sound (s : σ) : Faulty σ := ⟨s, []⟩

/-- From now on the operation answers with the fault. -/
def inject (f : Faulty σ) (m : StoreMethod) (fault : Fault) : Faulty σ :=
  { f with plan := (m, fault) :: f.plan.filter fun p => p.1 != m }

/-- No operation answers with a fault any more. -/
def heal (f : Faulty σ) : Faulty σ := { f with plan := [] }

/-- The fault that the operation is due, and the plan after it. -/
def due (plan : List (StoreMethod × Fault)) (m : StoreMethod) :
    Option StoreError × List (StoreMethod × Fault) :=
  match plan with
  | [] => (none, [])
  | (k, fault) :: rest =>
    if k = m then
      match fault.times with
      | none => (some fault.error, (k, fault) :: rest)
      | some 0 => (none, (k, fault) :: rest)
      | some (n + 1) => (some fault.error, (k, { fault with times := some n }) :: rest)
    else
      let (e, rest) := due rest m
      (e, (k, fault) :: rest)

/-- Answers with the due fault, or else with what the store says. -/
def guarded (m : StoreMethod) (op : StoreM σ α) : StoreM (Faulty σ) α := fun f =>
  match due f.plan m with
  | (some e, plan) => (.error e, { f with plan })
  | (none, plan) =>
    let (r, s) := op f.store
    (r, ⟨s, plan⟩)

instance [EventStore σ] : EventStore (Faulty σ) where
  saveEntities batch := guarded .saveEntities (EventStore.saveEntities batch)
  saveEvents batch := guarded .saveEvents (EventStore.saveEvents batch)
  saveCounts batch := guarded .saveCounts (EventStore.saveCounts batch)
  createTestCase tc := guarded .createTestCase (EventStore.createTestCase tc)
  finishTestCase id success now :=
    guarded .finishTestCase (EventStore.finishTestCase id success now)
  testCase id := guarded .testCase (EventStore.testCase id)
  testCasesOfRun run := guarded .testCasesOfRun (EventStore.testCasesOfRun run)
  entities id := guarded .entities (EventStore.entities id)
  entitiesById ids := guarded .entitiesById (EventStore.entitiesById ids)
  events id := guarded .events (EventStore.events id)
  counts id := guarded .counts (EventStore.counts id)
  resolved f := EventStore.resolved f.store

end Faulty

end StorageLifecycle
