import StorageLifecycle.Rehearsal.Scene
import StorageLifecycle.Runner

/-!
# Scenes with a runner

A runner whose crew is run by a rehearsal. Asking the runner to start or to stop changes its crew,
which the rehearsal takes over; what the rehearsal does to the crew goes back to the runner.
-/

namespace StorageLifecycle

structure RunnerScene where
  runner : Runner
  scene : Scene

/-- A step of a scene with a runner. -/
inductive RunnerStep where
  | common (s : Step)
  | start (id : TestCaseId) (settles : Bool)
  | stop (settles : Bool)
  | wait
  | stopAndWait
  | info

/-- The answer of a step. -/
inductive RunnerAnswer where
  | common (a : Answer)
  | started
  | refused (e : ObserverError)
  | report (r : RunReport)
  /-- Some session never ends. -/
  | never
  | info (observers : List String) (current : Option TestCaseId)

namespace RunnerScene

/-- A runner in a scene. -/
def create (scene : Scene) (runner : Runner) : RunnerScene :=
  ⟨runner, scene.onRehearsal fun st =>
    { st with settings := runner.settings, crew := runner.crew, posts := [], woken := [] }⟩

/-- The runner with the crew as the rehearsal has it. -/
def current (r : RunnerScene) : Runner := { r.runner with crew := r.scene.rehearsal.crew }

/-- The scene with the runner as it has gone on. -/
def adopt (r : RunnerScene) (runner : Runner) : RunnerScene :=
  ⟨runner, r.scene.onRehearsal (·.adopt runner.crew)⟩

def settle (r : RunnerScene) (settles : Bool) : RunnerScene :=
  { r with scene := r.scene.settle settles }

def start (r : RunnerScene) (tc : TestCase) : Except ObserverError RunnerScene :=
  (r.current.start r.scene.rehearsal.shared tc).map fun (runner, shared) =>
    { r with scene := r.scene.onShared fun _ => shared }.adopt runner

def stop (r : RunnerScene) : RunnerScene := r.adopt r.current.stop

/-- Waits until every session has ended: the report, unless some session never ends. -/
def wait (r : RunnerScene) : Option (RunReport × RunnerScene) :=
  let r := { r with scene := r.scene.onRehearsal (·.runToEnd r.scene.patience) }
  (r.current.wait r.scene.rehearsal.shared).map fun (report, runner, shared) =>
    (report, { r with scene := r.scene.onShared fun _ => shared }.adopt runner)

def report (r : RunnerScene) : RunnerAnswer × RunnerScene :=
  match r.wait with
  | some (report, r) => (.report report, r)
  | none => (.never, r)

def perform (r : RunnerScene) : RunnerStep → RunnerAnswer × RunnerScene
  | .common s =>
    let (a, scene) := r.scene.perform s
    (.common a, { r with scene })
  | .start id settles =>
    match r.start { TestCase.fresh "" "" .epoch with id } with
    | .ok r => (.started, r.settle settles)
    | .error e => (.refused e, r.settle settles)
  | .stop settles => (.common .done, r.stop.settle settles)
  | .wait => r.report
  | .stopAndWait => r.stop.report
  | .info => (.info r.runner.observerNames (r.runner.current.map (·.id)), r)

end RunnerScene

end StorageLifecycle
