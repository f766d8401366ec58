import StorageLifecycle.Rehearsal.Source

/-!
# Polling

A poller asks for listings now and then until its deadline. A tick that comes late by more than
five milliseconds moves all later ticks; one that is less late does not.
-/

namespace StorageLifecycle

/-- What a poller waits for. -/
inductive PollStage where
  | resting
  | listingPods (r : Reply (List Snapshot))
  | listingClaims (pods : Except ObserverError (List Snapshot)) (r : Reply (List Snapshot))

structure Poller where
  nextTick : Tick
  deadline : Tick
  period : Nat
  stage : PollStage

namespace Poller

/-- A poller whose first tick is at once. -/
def start (clock : Tick) (period timeout : Nat) : Poller :=
  ⟨clock, clock + timeout, period, .resting⟩

/-- By how much a tick may be late without moving the later ones. -/
def tolerance : Nat := 5

/-- The tick behind one that is noticed at a moment. -/
def following (p : Poller) (clock : Tick) : Tick :=
  (if p.nextTick + tolerance < clock then clock else p.nextTick) + p.period

/-- The next moment at which the poller has something to do. -/
def dueAt (p : Poller) : Option Tick :=
  match p.stage with
  | .resting => some (min p.nextTick p.deadline)
  | .listingPods r => r.answerAt
  | .listingClaims _ r => r.answerAt

end Poller

end StorageLifecycle
