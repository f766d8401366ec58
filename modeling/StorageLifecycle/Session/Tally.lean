import StorageLifecycle.Session.Course
import StorageLifecycle.TestCase

/-!
# Tallies of listings

Each listed pod and each listed claim counts once. A resource that is leaving counts as that,
whatever else it is.
-/

namespace StorageLifecycle

namespace Snapshot

/-- The snapshots of a kind. -/
def ofKind (k : ResourceKind) (l : List Snapshot) : List Snapshot := l.filter fun s => s.kind == k

/-- How many snapshots are leaving. -/
def countLeaving (l : List Snapshot) : Nat := l.countP fun s => s.isLeaving

/-- How many snapshots are settled and stay. -/
def countSettled (l : List Snapshot) : Nat := l.countP fun s => !s.isLeaving && s.isSettled

/-- How many snapshots are not settled yet and stay. -/
def countCreating (l : List Snapshot) : Nat := l.countP fun s => !s.isLeaving && !s.isSettled

/-- Every snapshot is counted once. -/
theorem countCreating_add_countSettled_add_countLeaving (l : List Snapshot) :
    countCreating l + countSettled l + countLeaving l = l.length := by
  induction l with
  | nil => rfl
  | cons s rest ih =>
    simp only [countCreating, countSettled, countLeaving, List.countP_cons, List.length_cons] at *
    cases s.isLeaving <;> cases s.isSettled <;> simp <;> omega

end Snapshot

namespace Tally

/-- The tally of a listing of pods and a listing of claims; other kinds do not count. -/
def ofListings (pods claims : List Snapshot) : Tally :=
  let pods := Snapshot.ofKind .pod pods
  let claims := Snapshot.ofKind .claim claims
  ⟨Snapshot.countCreating pods, Snapshot.countSettled pods, Snapshot.countLeaving pods,
    Snapshot.countCreating claims, Snapshot.countSettled claims, Snapshot.countLeaving claims⟩

end Tally

end StorageLifecycle
