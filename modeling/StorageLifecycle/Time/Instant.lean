/-!
# Instants and intervals

A moment of the observed timeline is a whole number of nanoseconds from the Unix epoch, and an
interval is the signed number of nanoseconds between two moments. Both are plain integers in a
wrapper, so their order and their differences are those of `Int`.

A date and time may also name a moment within a leap second, by more than 999 999 999 nanoseconds
above a whole second. Such moments are left out: the clock counts seconds from the epoch, in which
leap seconds do not occur, so no reading of it is one.
-/

namespace StorageLifecycle

/-- A moment, counted in nanoseconds from the Unix epoch; negative before it. Moments within a leap
second are left out, since no reading of the clock is one. -/
structure Instant where
  nanos : Int
deriving DecidableEq, Repr, Inhabited

/-- A signed distance between two moments, in nanoseconds. -/
structure Interval where
  nanos : Int
deriving DecidableEq, Repr, Inhabited

/-- The nanoseconds of one second. -/
def nanosPerSecond : Int := 1000000000

namespace Instant

instance : LE Instant := ⟨fun a b => a.nanos ≤ b.nanos⟩
instance : LT Instant := ⟨fun a b => a.nanos < b.nanos⟩
instance (a b : Instant) : Decidable (a ≤ b) := inferInstanceAs (Decidable (a.nanos ≤ b.nanos))
instance (a b : Instant) : Decidable (a < b) := inferInstanceAs (Decidable (a.nanos < b.nanos))

theorem le_def {a b : Instant} : a ≤ b ↔ a.nanos ≤ b.nanos := Iff.rfl
theorem lt_def {a b : Instant} : a < b ↔ a.nanos < b.nanos := Iff.rfl

/-- The Unix epoch. -/
def epoch : Instant := ⟨0⟩

/-- The moment `seconds` whole seconds and `nanos` nanoseconds after the epoch. -/
def ofParts (seconds nanos : Int) : Instant := ⟨seconds * nanosPerSecond + nanos⟩

/-- Whole seconds from the epoch, rounded down, also before it. -/
def seconds (t : Instant) : Int := t.nanos / nanosPerSecond

/-- The nanoseconds above `seconds`, from 0 to 999 999 999. -/
def subsecond (t : Instant) : Nat := (t.nanos % nanosPerSecond).toNat

/-- Whole microseconds from the epoch, rounded down, also before it. -/
def micros (t : Instant) : Int := t.nanos / 1000

/-- The moment a whole number of microseconds after the epoch. -/
def ofMicros (m : Int) : Instant := ⟨m * 1000⟩

/-- The later of two moments; the first on a tie. -/
def max (a b : Instant) : Instant :=
  if b.nanos < a.nanos then a else if a.nanos < b.nanos then b else a

/-- How far `a` lies after `b`. -/
def since (a b : Instant) : Interval := ⟨a.nanos - b.nanos⟩

/-- Reading a microsecond count back gives that count. -/
@[simp] theorem micros_ofMicros (m : Int) : (ofMicros m).micros = m := by
  simp only [micros, ofMicros]
  omega

/-- Rounding down to the microsecond never moves a moment forward. -/
theorem ofMicros_micros_le (t : Instant) : ofMicros t.micros ≤ t := by
  simp only [le_def, micros, ofMicros]
  omega

/-- Rounding down to the microsecond keeps the order of moments. -/
theorem micros_mono {a b : Instant} (h : a ≤ b) : a.micros ≤ b.micros := by
  simp only [le_def, micros] at *
  omega

end Instant

namespace Interval

/-- The interval of `seconds` whole seconds and `nanos` nanoseconds. -/
def ofParts (seconds nanos : Int) : Interval := ⟨seconds * nanosPerSecond + nanos⟩

/-- Whole seconds, cut toward zero. -/
def wholeSeconds (d : Interval) : Int := d.nanos.tdiv nanosPerSecond

/-- The nanoseconds beyond `wholeSeconds`, with the sign of the interval. -/
def subsecond (d : Interval) : Int := d.nanos.tmod nanosPerSecond

/-- Does the interval run backwards? -/
def isNegative (d : Interval) : Bool := d.nanos < 0

end Interval

end StorageLifecycle
