import StorageLifecycle.Cluster.Stream
import StorageLifecycle.Failure
import StorageLifecycle.Telemetry
import StorageLifecycle.Time.Tick

/-!
# Pumps

A pump keeps a watch going until its deadline: it opens one window behind the other, resumes each
where the last one stopped, and passes on what the windows bring. Its reader takes one notification
after the other; when too many wait for him the pump waits too. A reader who has left is noticed
when the pump waits for the next item, for the next window or for room, but not while it waits for
the answer to a request.
-/

namespace StorageLifecycle

/-- The answer to a request for a window, and after how many milliseconds it comes. -/
structure Opening where
  delay : Nat
  result : Except String Window

structure Reader where
  /-- How many notifications can wait for the reader. -/
  buffer : Nat
  /-- How many milliseconds pass before he takes the next one. -/
  pause : Nat
  /-- After how many notifications he asks the pump to stop, if he does. He goes on to take what is
  still passed on. -/
  stopsAfter : Option Nat
  /-- After how many notifications he drops the watch, if he does. He takes nothing any more. -/
  dropsAfter : Option Nat
deriving DecidableEq, Repr

/-- A request for a window: for how many seconds, and from which version on. -/
structure WindowRequest where
  moment : Tick
  secs : UInt32
  version : String
deriving DecidableEq, Repr

/-- A notification that was passed on. -/
structure Passage where
  sentAt : Tick
  takenAt : Tick
  change : Change
  object : Option Snapshot
deriving DecidableEq, Repr

structure Pump where
  kind : ResourceKind
  reader : Reader
  deadline : Tick
  clock : Tick
  resume : Resume
  /-- When the first window was opened. -/
  openedAt : Option Tick
  /-- Why a window could not be opened, which ended the watch. -/
  failure : Option ObserverError
  requests : List WindowRequest
  passages : List Passage
  /-- How many notifications had been passed on when the pump last waited for room. -/
  countAtWait : Nat
  warnings : List (Tick × Signal)
deriving DecidableEq, Repr

namespace Pump

def start (kind : ResourceKind) (reader : Reader) (clock deadline : Tick) : Pump :=
  ⟨kind, reader, deadline, clock, .start, none, none, [], [], 0, []⟩

/-! ## The reader -/

/-- When the reader takes the next notification, if it is there by then. -/
def nextRead (p : Pump) : Tick :=
  (match p.passages.getLast? with
    | some d => d.takenAt
    | none => p.openedAt.getD 0) + p.reader.pause

/-- When the reader has taken so many notifications, if he does. -/
def takenAt? (p : Pump) : Nat → Option Tick
  | 0 => p.openedAt
  | n + 1 => p.passages[n]?.map (·.takenAt)

/-- When the reader drops the watch, if he does. -/
def droppedAt? (p : Pump) : Option Tick := p.reader.dropsAfter.bind p.takenAt?

/-- When the reader leaves: he asks the pump to stop, or drops the watch. -/
def leftAt? (p : Pump) : Option Tick :=
  Tick.earlier (p.reader.stopsAfter.bind p.takenAt?) p.droppedAt?

/-- Has the reader taken the notification at a place? He has a turn when the pump waits, and takes
what is there. -/
def isTaken (p : Pump) (place : Nat) (d : Passage) : Bool :=
  decide (d.takenAt < p.clock)
    || d.takenAt == p.clock && (decide (d.sentAt < p.clock) || decide (place < p.countAtWait))

/-- Has the reader left, in that sense? -/
def hasLeft (p : Pump) : Bool :=
  let taken : Nat → Bool
    | 0 => p.openedAt.any (· < p.clock)
    | n + 1 => p.passages[n]?.any (p.isTaken n)
  p.reader.stopsAfter.any taken || p.reader.dropsAfter.any taken

/-- The pump when there is room for one more notification; none if it waits for that until the
reader drops the watch. -/
def withRoom? (p : Pump) : Option Pump :=
  let sent := p.passages.length
  if sent < p.reader.buffer then some p
  else
    let place := sent - p.reader.buffer
    p.passages[place]?.bind fun d =>
      if p.isTaken place d then some p
      else if p.droppedAt?.any (· ≤ d.takenAt) then none
      else some { p with clock := d.takenAt, countAtWait := sent }

/-- Passes a notification on as soon as there is room; none if the reader drops the watch first. -/
def pass? (p : Pump) (change : Change) (object : Option Snapshot) : Option Pump :=
  p.withRoom?.map fun p =>
    { p with
      passages := p.passages ++ [⟨p.clock, max p.clock p.nextRead, change, object⟩] }

/-! ## Waiting -/

/-- What came first: what was waited for, or the end of the watch. -/
inductive Turn where
  | reached (p : Pump)
  | ended (p : Pump)

/-- The watch ends. -/
def endAt (p : Pump) (t : Tick) : Turn := .ended { p with clock := max p.clock t }

/-- Waits for so many milliseconds, or for ever, unless the deadline comes or the reader leaves.
What is there at once gives the reader no turn to leave. -/
def await (p : Pump) (wait : Option Nat) : Turn :=
  let due := wait.map (p.clock + ·)
  let left := p.leftAt?.filter fun s => due.all fun u => if u ≤ p.clock then p.hasLeft else s ≤ u
  let expired := if due.all (p.deadline ≤ ·) then some p.deadline else none
  match Tick.earlier left expired, due with
  | some t, _ => p.endAt t
  | none, some u => .reached { p with clock := u }
  | none, none => p.endAt p.deadline

/-- The wait before the next window, in milliseconds. -/
def backoff (p : Pump) : Nat :=
  p.resume.backoff (Tick.nanos * (p.deadline - p.clock)) / Tick.nanos

/-- Waits before the next window, unless the reader leaves. -/
def backOff (p : Pump) : Turn :=
  let next := p.clock + p.backoff
  if p.backoff = 0 then .reached p
  else
    match p.leftAt?.filter (· ≤ next) with
    | some t => p.endAt t
    | none => .reached { p with clock := next }

/-! ## Windows -/

/-- The request for the next window. -/
def windowRequest (p : Pump) (secs : UInt32) : WindowRequest := ⟨p.clock, secs, p.resume.version⟩

/-- A window is open. -/
def opened (p : Pump) : Pump := { p with openedAt := p.openedAt <|> some p.clock }

def warn (p : Pump) (message error : String) : Pump :=
  { p with
    warnings := p.warnings ++
      [(p.clock, .warn message [("resource", p.kind.label), ("error", error)])] }

/-- A window could not be opened. The first one fails the watch, a later one ends it. -/
def refused (p : Pump) (reason : String) : Pump :=
  let e := ObserverError.watchOpen p.kind.label reason
  let p := { p with failure := some e }
  if p.openedAt.isSome then p.warn "failed to re-open watch" e.message else p

/-- Follows the items of a window up to its end, or to the first failure. -/
def follow (closing : Option Nat) : List (Nat × StreamItem) → Pump → Turn
  | [], p => p.await closing
  | (wait, item) :: rest, p =>
    match p.await (some wait) with
    | .ended p => .ended p
    | .reached p =>
      match item with
      | .failure e =>
        .reached { p.warn "watch stream error, re-opening" e.message with
          resume := p.resume.broken }
      | .event e =>
        let p := { p with resume := p.resume.after e }
        match e.message? with
        | none => follow closing rest p
        | some (change, object) =>
          match p.pass? change object with
          | some p => follow closing rest p
          | none => p.endAt (p.leftAt?.getD p.clock)

/-- Asks for the next window, unless the watch ends before or something stands against the request. -/
def ask (objection : WindowRequest → Option String) (p : Pump) : Turn :=
  match p.backOff with
  | .ended p => .ended p
  | .reached p =>
    match Resume.nextWindow (Tick.nanos * p.deadline) (Tick.nanos * p.clock) with
    | none => .ended p
    | some secs =>
      let r := p.windowRequest secs
      match objection r with
      | some reason => .ended (p.refused reason)
      | none => .reached { p with requests := p.requests ++ [r] }

/-- Takes the answer to a request, and follows the window that it opens. -/
def hear (o : Opening) (p : Pump) : Turn :=
  let p := { p with clock := p.clock + o.delay }
  match o.result with
  | .error reason => .ended (p.refused reason)
  | .ok w => follow w.closing w.items p.opened

/-- Keeps the watch going, given what stands against a request for a window and the answers to the
requests that are made. When there are no more answers a window is open in which nothing happens. -/
def run (objection : WindowRequest → Option String) : List Opening → Pump → Pump
  | [], p =>
    match p.ask objection with
    | .ended p => p
    | .reached p =>
      match p.opened.await none with
      | .reached p | .ended p => p
  | o :: more, p =>
    match p.ask objection with
    | .ended p => p
    | .reached p =>
      match p.hear o with
      | .ended p => p
      | .reached p => run objection more p

/-! ## What the reader sees -/

/-- The watch was opened at a moment, or could not be. -/
def opening (p : Pump) : Except ObserverError Tick :=
  match p.openedAt, p.failure with
  | some t, _ => .ok t
  | none, some e => .error e
  | none, none => .error (.watchOpen p.kind.label "watch task ended before opening")

/-- What the reader took. -/
def taken (p : Pump) : List Passage :=
  match p.reader.dropsAfter with
  | some n => p.passages.take n
  | none => p.passages

/-- When the reader notices that nothing will come any more. -/
def closedAt (p : Pump) : Tick := max p.clock p.nextRead

/-- When the reader goes on to something else. -/
def doneAt (p : Pump) : Tick :=
  match p.droppedAt?, p.openedAt with
  | some t, _ => t
  | none, some _ => p.closedAt
  | none, none => p.clock

/-- Does the reader go on as soon as the pump has done its part? If not, his pause is over. -/
def isPrompt (p : Pump) : Bool :=
  match p.droppedAt?, p.openedAt with
  | some t, opened => opened == some t || p.passages.any (·.sentAt == t)
  | none, some _ => decide (p.nextRead ≤ p.clock)
  | none, none => true

/-- What the pump still reports when a reader who takes everything at once drops the watch: that it
is refused a window for which it has asked by then. -/
def overdue (p : Pump) (dropped : Tick) : List (Tick × Signal) :=
  if p.failure.isSome && p.requests.all (·.moment ≤ dropped) then
    p.warnings.filter (dropped < ·.1)
  else []

end Pump

end StorageLifecycle
