/-!
# Ticks

The clock of a rehearsal counts whole milliseconds from its start.
-/

namespace StorageLifecycle

/-- A moment of a rehearsal, in milliseconds from its start. -/
abbrev Tick := Nat

namespace Tick

/-- The nanoseconds of one tick. -/
def nanos : Nat := 1000000

/-- The earlier of two moments that may never come. -/
def earlier : Option Tick → Option Tick → Option Tick
  | some a, some b => some (min a b)
  | some a, none => some a
  | none, b => b

end Tick

end StorageLifecycle
