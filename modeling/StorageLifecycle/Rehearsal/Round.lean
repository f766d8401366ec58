import StorageLifecycle.Observation
import StorageLifecycle.Rehearsal.Runner

/-!
# Rounds of observations

A round observes one test case from its start to its outcome. Steps before it prepare the scene;
steps while it goes on decide when it stops, which is when they are done.
-/

namespace StorageLifecycle

structure Round where
  before : List Step
  settings : ObserverSettings
  testCase : TestCase
  steps : List Step

/-- What comes of a round: the answers of its steps, and the outcome; none if some session never
ends. -/
structure Played where
  answers : List (Answer × View)
  outcome : Option (Except Observation.Cause Outcome)
  view : View

namespace Scene

/-- Performs steps one after the other, with a look after each. -/
def performAll : List Step → Scene → List (Answer × View) × Scene
  | [], s => ([], s)
  | step :: rest, s =>
    let (a, s) := s.perform step
    let (v, s) := s.look
    let (more, s) := performAll rest s
    ((a, v) :: more, s)

/-- A part of an observation, on what the sessions share. -/
def observe {α : Type} (s : Scene) (m : Observation.ObservationM Shelf α) :
    Except Observation.Cause α × Scene :=
  let (r, shared) := m s.rehearsal.shared
  (r, s.onShared fun _ => shared)

/-- The scene with a new crew. -/
def raise (s : Scene) (settings : ObserverSettings) (crew : Crew) : Scene :=
  s.onRehearsal fun st =>
    let st : Rehearsal Source Shelf :=
      { st with settings, crew := .empty, posts := [], woken := [] }
    st.adopt crew

/-- The end of a round. -/
def close (s : Scene) (answers : List (Answer × View))
    (outcome : Option (Except Observation.Cause Outcome)) : Played × Scene :=
  let (view, s) := s.look
  (⟨answers, outcome, view⟩, s)

def play (s : Scene) (round : Round) : Played × Scene :=
  let (before, s) := s.performAll round.before
  match s.observe (Observation.begin round.settings round.testCase) with
  | (.error c, s) => s.close before (some (.error c))
  | (.ok (tc, runner), s) =>
    let (steps, s) := ((s.raise round.settings runner.crew).settle true).performAll round.steps
    match (RunnerScene.stop ⟨runner, s⟩).wait with
    | none => s.close (before ++ steps) none
    | some (report, r) =>
      match r.scene.observe (Observation.conclude tc report r.scene.rehearsal.wall) with
      | (.error c, s) => s.close (before ++ steps) (some (.error c))
      | (.ok o, s) => (s.noteCase o.testCase.id).close (before ++ steps) (some (.ok o))

end Scene

end StorageLifecycle
