/-!
# Bounds of whole numbers

How far whole numbers of so many bits reach.
-/

namespace StorageLifecycle.Word

/-- The numbers without a sign lie below this. -/
def bound (bits : Nat) : Nat := Nat.pow 2 bits

/-- The numbers with a sign lie below this, and not below its negative. -/
def half (bits : Nat) : Nat := Nat.pow 2 (bits - 1)

theorem bound_pos (bits : Nat) : 0 < bound bits := Nat.pow_pos (by decide)

end StorageLifecycle.Word
