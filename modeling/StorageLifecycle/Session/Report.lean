import StorageLifecycle.ObserverKind
import StorageLifecycle.Entity
import StorageLifecycle.Text.Literal

/-!
# Reports

A session ends in one of four ways, and says how much of its work was kept. The report of a run
joins the reports of its sessions.
-/

namespace StorageLifecycle

/-- How a session ended. -/
inductive SessionEnd where
  /-- It was asked to stop, and what it held was stored. -/
  | shutdown
  /-- Its feed closed before it was asked to stop; what it held is lost. -/
  | watchExpired (dropped : Nat)
  /-- Its feed could not be opened. -/
  | watchFailed (reason : String)
  /-- It was asked to stop, and the store refused what it held. -/
  | flushFailed (reason : String)
deriving DecidableEq, Repr

/-- The end as a value in a log line. -/
def SessionEnd.describe : SessionEnd → String
  | shutdown => "Shutdown"
  | watchExpired dropped => "WatchExpired \x7b dropped: " ++ toString dropped ++ " \x7d"
  | watchFailed reason => "WatchFailed \x7b reason: " ++ Literal.write reason ++ " \x7d"
  | flushFailed reason => "FlushFailed \x7b reason: " ++ Literal.write reason ++ " \x7d"

structure SessionReport where
  observer : ObserverKind
  ending : SessionEnd
  eventsPersisted : Nat
  countsPersisted : Nat
  handled : Nat
  ignored : Nat
  unresolved : Nat
deriving DecidableEq, Repr

namespace SessionReport

/-- The report of a session that never had a feed. -/
def failedToOpen (observer : ObserverKind) (reason : String) : SessionReport :=
  ⟨observer, .watchFailed reason, 0, 0, 0, 0, 0⟩

/-- Did the session end before it was asked to stop? -/
def endedEarly (r : SessionReport) : Bool :=
  match r.ending with
  | .watchExpired _ | .watchFailed _ => true
  | _ => false

def isClean (r : SessionReport) : Bool := r.ending == .shutdown

end SessionReport

/-- The report of a run: its sessions, and how many of them were lost without a report. -/
structure RunReport where
  testCase : TestCaseId
  sessions : List SessionReport
  failedTasks : Nat
deriving DecidableEq, Repr

namespace RunReport

def endedEarly (r : RunReport) : Bool := 0 < r.failedTasks || r.sessions.any (·.endedEarly)

def isClean (r : RunReport) : Bool := r.failedTasks == 0 && r.sessions.all (·.isClean)

def eventsPersisted (r : RunReport) : Nat := r.sessions.foldl (fun n s => n + s.eventsPersisted) 0

/-- The report of the observer with a name. -/
def session? (r : RunReport) (name : String) : Option SessionReport :=
  r.sessions.find? fun s => s.observer.name == name

end RunReport

end StorageLifecycle
