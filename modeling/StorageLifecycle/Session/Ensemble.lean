import StorageLifecycle.Session.Finish

/-!
# Sessions that work side by side

The four sessions of a test case share a store and a registry. Each takes what its feed brings, item
after item, and is asked to stop when there is nothing left. A schedule says whose turn it is: the
session either takes its next item or ends.
-/

namespace StorageLifecycle

/-- What the four observers of a test case are fed. -/
structure Feeds where
  claims : List Notification
  pods : List Notification
  attachments : List Notification
  listings : List Session.Listing
deriving DecidableEq, Repr

/-- What an observer is fed. -/
def Feeds.items (f : Feeds) : ObserverKind → List Session.Item
  | .claim => f.claims.map .notification
  | .pod => f.pods.map .notification
  | .attachment => f.attachments.map .notification
  | .count => f.listings.map .listing

/-- A session, what it has still to take, and its report when it has ended. -/
structure Member where
  session : Session
  feed : List Session.Item
  report : Option SessionReport
deriving DecidableEq, Repr

structure Ensemble (σ : Type) where
  member : ObserverKind → Member
  shared : Shared σ

namespace Ensemble

variable {σ : Type}

/-- The four sessions at their start. -/
def assemble (testCase : TestCaseId) (feeds : Feeds) (w : Shared σ) : Ensemble σ :=
  ⟨fun k => ⟨.start k testCase, feeds.items k, none⟩, w⟩

/-- One session changes, together with what is shared. -/
def put (e : Ensemble σ) (k : ObserverKind) (m : Member) (w : Shared σ) : Ensemble σ :=
  ⟨fun k' => if k' = k then m else e.member k', w⟩

/-- A session has its turn. -/
def step [EventStore σ] (e : Ensemble σ) (k : ObserverKind) : Ensemble σ :=
  let m := e.member k
  match m.report, m.feed with
  | some _, _ => e
  | none, item :: rest =>
    let (s, w) := m.session.take e.shared item
    e.put k ⟨s, rest, none⟩ w
  | none, [] =>
    let (r, s, w) := m.session.finish .stop e.shared
    e.put k ⟨s, [], some r⟩ w

/-- The sessions have their turns in this order. -/
def run [EventStore σ] (e : Ensemble σ) (schedule : List ObserverKind) : Ensemble σ :=
  schedule.foldl step e

/-- Has every session taken all of its feed, and ended with what it held stored? -/
def IsClean (e : Ensemble σ) : Prop :=
  ∀ k, (e.member k).feed = [] ∧ ∃ r, (e.member k).report = some r ∧ r.isClean = true

end Ensemble

end StorageLifecycle
