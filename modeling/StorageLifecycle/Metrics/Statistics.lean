import StorageLifecycle.Time.Instant
import StorageLifecycle.Text.Word

/-!
# Statistics of durations

Durations are summed up as count, least, greatest, mean and median in seconds. Negative durations
do not count; the others become floating-point seconds by way of whole microseconds. The seconds are
sorted by the total order of floating-point numbers before they are added up.
-/

namespace StorageLifecycle

structure DurationStats where
  count : Nat
  minSecs : Float
  maxSecs : Float
  avgSecs : Float
  medianSecs : Float
deriving Repr

namespace DurationStats

/-- The statistics of no duration at all. -/
def empty : DurationStats := ⟨0, 0, 0, 0, 0⟩

/-- Whole microseconds of a duration that is not negative. A duration beyond 63 bits counts as the
greatest that fits. -/
def clippedMicros (d : Interval) : Nat := min (d.nanos.toNat / 1000) (Word.half 64 - 1)

/-- Microseconds as seconds. -/
def toSeconds (micros : Nat) : Float := Float.ofNat micros / 1000000

/-- The place of a number in the total order of floating-point numbers: its bits as a whole number
with a sign, where a number with the sign set has all its other bits inverted. -/
def place (x : Float) : Int :=
  let bits := x.toBits.toBitVec
  (bits ^^^ (bits.sshiftRight 63) >>> 1).toInt

/-- The first number does not come after the second in the total order. -/
def precedes (x y : Float) : Bool := place x ≤ place y

/-- The durations that count. -/
def counted (samples : List Interval) : List Interval := samples.filter fun d => !d.isNegative

/-- The seconds of the durations that count, in ascending order. -/
def ranked (samples : List Interval) : List Float :=
  ((counted samples).map fun d => toSeconds (clippedMicros d)).mergeSort precedes

/-- The middle value; of an even number of values the mean of the middle two. -/
def median (secs : List Float) : Float :=
  let mid := secs.length / 2
  if secs.length % 2 = 0 then (secs.getD (mid - 1) 0 + secs.getD mid 0) / 2 else secs.getD mid 0

/-- The statistics of values in ascending order. -/
def ofRanked (secs : List Float) : DurationStats :=
  if secs.isEmpty then empty
  else
    { count := secs.length
      minSecs := secs.getD 0 0
      maxSecs := secs.getD (secs.length - 1) 0
      avgSecs := secs.foldl (· + ·) 0 / Float.ofNat secs.length
      medianSecs := median secs }

def ofSamples (samples : List Interval) : DurationStats := ofRanked (ranked samples)

end DurationStats

end StorageLifecycle
