import StorageLifecycle.Config.Basic
import StorageLifecycle.Observer

/-!
# Runners

A runner observes one test case after another. To start it clears the registry, gives its
observers fresh tokens, and starts a session of each; to stop it cancels all tokens; and once every
session has ended, waiting gives their reports. While it runs it cannot be started.
-/

namespace StorageLifecycle

inductive RunnerState where
  | initialized
  | running
  | stopped
deriving DecidableEq, Repr

def RunnerState.word : RunnerState → String
  | initialized => "Initialized"
  | running => "Running"
  | stopped => "Stopped"

structure Runner where
  settings : ObserverSettings
  observers : List Observer
  /-- The token of the run. -/
  parent : Token
  current : Option TestCase
  state : RunnerState
  crew : Crew
deriving DecidableEq, Repr

namespace Runner

/-! ## Building -/

/-- What a runner is built of. -/
structure Parts where
  settings : ObserverSettings
  hasSource : Bool
  hasStore : Bool
  kinds : List ObserverKind
deriving DecidableEq, Repr

/-- Each kind once, in the order of first mention. -/
def distinct (kinds : List ObserverKind) : List ObserverKind :=
  kinds.foldl (fun acc k => if acc.contains k then acc else acc ++ [k]) []

/-- An observer of each kind, with the crew that knows their tokens. -/
def createAll (c : Crew) : List ObserverKind → List Observer × Crew
  | [] => ([], c)
  | k :: rest =>
    let (o, c) := Observer.create k c
    let (os, c) := createAll c rest
    (o :: os, c)

def missing (part reason : String) : ObserverError := .config part (reason ++ " must be provided")

/-- A runner of valid settings, with a source, a store, and at least one observer. -/
def build (p : Parts) : Except ObserverError Runner := do
  p.settings.validate
  if !p.hasSource then throw (missing "source" "watch source")
  if !p.hasStore then throw (missing "store" "event store")
  if p.kinds.isEmpty then throw (.config "observers" "at least one observer is required")
  let (observers, crew) := createAll .empty (distinct p.kinds)
  let (parent, crew) := crew.fresh
  return ⟨p.settings, observers, parent, none, .initialized, crew⟩

def kinds (r : Runner) : List ObserverKind := r.observers.map (·.kind)

def observerNames (r : Runner) : List String := r.observers.map (·.kind.name)

/-! ## Running -/

section

variable {σ : Type}

/-- Gives each observer a fresh token and starts a session of it. -/
def launchAll (testCase : TestCaseId) (parent : Token) (c : Crew) :
    List Observer → List Observer × Crew
  | [] => ([], c)
  | o :: rest =>
    let (o, c) := o.reset c
    let c := o.watch c testCase parent
    let (os, c) := launchAll testCase parent c rest
    (o :: os, c)

def alreadyRunning : ObserverError := .lifecycle "runner is already running"

/-- Starts a session of every observer for a test case. -/
def start (r : Runner) (w : Shared σ) (tc : TestCase) : Except ObserverError (Runner × Shared σ) :=
  if r.state = .running then .error alreadyRunning
  else
    let (parent, crew) := r.crew.fresh
    let (observers, crew) := launchAll tc.id parent crew r.observers
    .ok ({ r with observers, parent, current := some tc, state := .running, crew },
      w.clearRegistry.tell [.set .activeSessions crew.watchings.length])

/-- Asks all sessions to stop; asking twice is asking once. -/
def stop (r : Runner) : Runner :=
  { r with crew := (r.observers.foldl (fun c o => o.stop c) r.crew).cancel r.parent }

/-- The reports of the sessions, if all of them have ended. -/
def reports? (r : Runner) : Option (List SessionReport) := r.crew.watchings.mapM (·.report?)

/-- What is reported when a session is joined, with so many still to join. -/
def joinSignals (report : SessionReport) (left : Nat) : List Signal :=
  (if report.endedEarly then
    [.warn "observer ended early"
      [("observer", report.observer.name), ("end", report.ending.describe)]]
  else []) ++ [.set .activeSessions left]

def joinAllSignals : List SessionReport → List Signal
  | [] => []
  | report :: rest => joinSignals report rest.length ++ joinAllSignals rest

/-- The report of the run, once all sessions have ended; nothing before that. -/
def wait (r : Runner) (w : Shared σ) : Option (RunReport × Runner × Shared σ) :=
  r.reports?.map fun reports =>
    (⟨(r.current.map (·.id)).getD 0, reports, 0⟩,
      { r with
        state := if r.state = .running then .stopped else r.state
        crew := { r.crew with watchings := [] } },
      w.tell (joinAllSignals reports))

end

end Runner

end StorageLifecycle
