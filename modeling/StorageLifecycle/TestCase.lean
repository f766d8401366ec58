import StorageLifecycle.Time.Instant
import StorageLifecycle.Entity

/-!
# Test cases and count samples
-/

namespace StorageLifecycle

/-- One observed test case of a run. It is open until it has an end. -/
structure TestCase where
  id : TestCaseId
  name : String
  runName : String
  startedAt : Instant
  endedAt : Option Instant
  success : Option Bool
deriving DecidableEq, Repr

namespace TestCase

/-- An open test case that no store has seen yet. -/
def fresh (name runName : String) (startedAt : Instant) : TestCase :=
  ⟨0, name, runName, startedAt, none, none⟩

end TestCase

/-- How many pods and claims were in each state. -/
structure Tally where
  podsCreating : Nat
  podsReady : Nat
  podsTerminating : Nat
  pvcCreating : Nat
  pvcBound : Nat
  pvcTerminating : Nat
deriving DecidableEq, Repr

namespace Tally

def zero : Tally := ⟨0, 0, 0, 0, 0, 0⟩

/-- The greater of each of the six counts. -/
def max (a b : Tally) : Tally :=
  ⟨Nat.max a.podsCreating b.podsCreating, Nat.max a.podsReady b.podsReady,
    Nat.max a.podsTerminating b.podsTerminating, Nat.max a.pvcCreating b.pvcCreating,
    Nat.max a.pvcBound b.pvcBound, Nat.max a.pvcTerminating b.pvcTerminating⟩

/-- The six counts in their fixed order. -/
def toList (t : Tally) : List Nat :=
  [t.podsCreating, t.podsReady, t.podsTerminating, t.pvcCreating, t.pvcBound, t.pvcTerminating]

end Tally

/-- One sample of the tally, taken for a test case at a moment. -/
structure CountSample where
  testCase : TestCaseId
  timestamp : Instant
  tally : Tally
deriving DecidableEq, Repr

end StorageLifecycle
