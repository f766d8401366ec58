import StorageLifecycle.Session.Crew

/-!
# Observers

An observer starts sessions of its kind. It has a token of its own, which stops the sessions that
were started with it; after a reset it has another one.
-/

namespace StorageLifecycle

structure Observer where
  kind : ObserverKind
  own : Token
deriving DecidableEq, Repr

namespace Observer

/-- An observer with a token of its own. -/
def create (kind : ObserverKind) (c : Crew) : Observer × Crew :=
  let (own, c) := c.fresh
  (⟨kind, own⟩, c)

/-- Gives the observer another token. -/
def reset (o : Observer) (c : Crew) : Observer × Crew :=
  let (own, c) := c.fresh
  ({ o with own }, c)

/-- Asks the sessions of the observer to stop; asking twice is asking once. -/
def stop (o : Observer) (c : Crew) : Crew := c.cancel o.own

/-- Starts a session, which also stops when the parent token is cancelled. -/
def watch (o : Observer) (c : Crew) (testCase : TestCaseId) (parent : Token) : Crew :=
  c.engage o.kind testCase o.own parent

def isStopped (o : Observer) (c : Crew) : Bool := c.tokens.isCancelled o.own

def describe (o : Observer) (c : Crew) : String :=
  "Observer \x7b kind: " ++ o.kind.word ++ ", stopped: " ++ toString (o.isStopped c) ++ " \x7d"

end Observer

end StorageLifecycle
