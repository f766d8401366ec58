import StorageLifecycle.Resource
import StorageLifecycle.Text.Word

/-!
# Resuming a watch

A watch is served in windows. What a window brings decides from which version the next one is
opened, and how long to wait before that: after failures in a row the wait doubles from one to the
next up to a limit. Times are in nanoseconds. The count of the failures, the factor of the wait and
the seconds of a window are words of 32 bits.
-/

namespace StorageLifecycle

/-- An object as an event brings it: its version, if it carries one, and its state. -/
structure WatchedObject where
  version : Option String
  snapshot : Snapshot
deriving DecidableEq, Repr

/-- What the stream of a watch says. -/
inductive WatchEvent where
  | added (o : WatchedObject)
  | modified (o : WatchedObject)
  | deleted (o : WatchedObject)
  /-- Nothing changed up to a version. -/
  | bookmark (version : String)
  | error (code : Nat)
deriving DecidableEq, Repr

namespace WatchEvent

/-- The change and the state that the event is passed on as; a bookmark is not. -/
def message? : WatchEvent → Option (Change × Option Snapshot)
  | added o => some (.added, some o.snapshot)
  | modified o => some (.modified, some o.snapshot)
  | deleted o => some (.deleted, some o.snapshot)
  | bookmark _ => none
  | error code => some (.other ("ERROR " ++ toString code), none)

/-- The version that the event moves the watch to. -/
def version? : WatchEvent → Option String
  | added o | modified o | deleted o => o.version
  | bookmark v => some v
  | error _ => none

end WatchEvent

/-- From where the next window is opened, and how many failures there were in a row. -/
structure Resume where
  version : String
  failures : UInt32
deriving DecidableEq, Repr

namespace Resume

/-- The version that stands for all there is. -/
def fromStart : String := "0"

/-- The code of the error for a version that the cluster has forgotten. -/
def gone : Nat := 410

def start : Resume := ⟨fromStart, 0⟩

/-- After an event. An error is a failure, and one for a forgotten version starts over. -/
def after (r : Resume) : WatchEvent → Resume
  | .error code => ⟨if code = gone then fromStart else r.version, r.failures + 1⟩
  | e => ⟨e.version?.getD r.version, 0⟩

/-- After the stream of a window broke. -/
def broken (r : Resume) : Resume := { r with failures := r.failures + 1 }

/-- A second in nanoseconds. -/
def second : Nat := 1000000000

/-- The wait after the first failure. -/
def backoffBase : Nat := 250000000

/-- The longest wait. -/
def backoffMax : Nat := 30 * second

/-- The longest time that there is: its seconds are a word of 64 bits. -/
def longest : Nat := Word.bound 64 * second - 1

/-- So many times a time; the longest time if it would be longer. -/
def multiple (time : Nat) (factor : UInt32) : Nat := min (time * factor.toNat) longest

/-- By how much the wait is multiplied after failures in a row: it doubles from one to the next, but
not for ever. -/
def factor (r : Resume) : UInt32 := 1 <<< min (r.failures - 1) 16

/-- The wait before the next window, given how much time is left. -/
def backoff (r : Resume) (remaining : Nat) : Nat :=
  if r.failures = 0 then 0
  else min (min (multiple backoffBase r.factor) backoffMax) remaining

/-- A window is open for so many seconds at most. -/
def maxWindowSecs : Nat := 290

/-- The seconds that a window is asked for: what is left, from one second to the most. -/
def windowSecs (remaining : Nat) : UInt32 :=
  (max 1 (min (remaining / second) maxWindowSecs)).toUInt32

/-- The seconds of the next window; none if no time is left. -/
def nextWindow (deadline now : Nat) : Option UInt32 :=
  let remaining := deadline - now
  if remaining = 0 then none else some (windowSecs remaining)

end Resume

end StorageLifecycle
