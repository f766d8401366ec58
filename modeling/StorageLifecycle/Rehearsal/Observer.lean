import StorageLifecycle.Observer
import StorageLifecycle.Rehearsal.Scene

/-!
# Scenes with an observer

An observer on its own, with a parent token that is cancelled or replaced at will. The report of
the session that was started last is given once.
-/

namespace StorageLifecycle

structure ObserverScene where
  scene : Scene
  observer : Observer
  parent : Token
  /-- The place of the last session whose report was not given. -/
  last : Option Nat

/-- A step of a scene with an observer. -/
inductive ObserverStep where
  | common (s : Step)
  | watch (id : TestCaseId)
  | stop (settles : Bool)
  | reset
  | cancel
  | newParent
  | report

/-- The answer of a step. -/
inductive ObserverAnswer where
  | common (a : Answer)
  | report (r : Option SessionReport)

namespace ObserverScene

def create (scene : Scene) (kind : ObserverKind) : ObserverScene :=
  let (observer, crew) := Observer.create kind .empty
  let (parent, crew) := crew.fresh
  ⟨scene.onRehearsal (·.adopt crew), observer, parent, none⟩

def crew (s : ObserverScene) : Crew := s.scene.rehearsal.crew

/-- The scene with the crew as it has gone on. -/
def adopt (s : ObserverScene) (crew : Crew) (settles : Bool) : ObserverScene :=
  { s with scene := (s.scene.onRehearsal (·.adopt crew)).settle settles }

def done : ObserverAnswer := .common .done

def perform (s : ObserverScene) : ObserverStep → ObserverAnswer × ObserverScene
  | .common step =>
    let (a, scene) := s.scene.perform step
    (.common a, { s with scene })
  | .watch id =>
    let crew := s.observer.watch s.crew id s.parent
    (done, { s.adopt crew true with last := some (crew.watchings.length - 1) })
  | .stop settles => (done, s.adopt (s.observer.stop s.crew) settles)
  | .reset =>
    let (observer, crew) := s.observer.reset s.crew
    (done, { s.adopt crew false with observer })
  | .cancel => (done, s.adopt (s.crew.cancel s.parent) true)
  | .newParent =>
    let (parent, crew) := s.crew.fresh
    (done, { s.adopt crew false with parent })
  | .report =>
    match s.last.bind fun i => s.crew.watchings[i]?.bind (·.report?) with
    | some r => (.report (some r), { s with last := none })
    | none => (.report none, s)

end ObserverScene

end StorageLifecycle
