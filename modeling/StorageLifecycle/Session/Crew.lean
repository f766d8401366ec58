import StorageLifecycle.Session.Finish

/-!
# Watchings and the tokens that stop them

A watching is one session from the moment it is asked for to its report: its feed has to be opened,
it lives, and it ends. It stops when one of two tokens is cancelled, its observer's or the one of
the run. A crew is a list of watchings with the tokens that were handed out.
-/

namespace StorageLifecycle

/-- A token that can be cancelled, by number. -/
abbrev Token := Nat

/-- The tokens handed out so far, and those of them that are cancelled. -/
structure Tokens where
  next : Token
  cancelled : List Token
deriving DecidableEq, Repr

namespace Tokens

def empty : Tokens := ⟨0, []⟩

/-- A token that nobody has yet. -/
def fresh (t : Tokens) : Token × Tokens := (t.next, { t with next := t.next + 1 })

def cancel (t : Tokens) (k : Token) : Tokens := { t with cancelled := k :: t.cancelled }

def isCancelled (t : Tokens) (k : Token) : Bool := t.cancelled.contains k

end Tokens

/-- Where a watching stands. -/
inductive Phase where
  | opening
  | live (s : Session)
  | ended (r : SessionReport)
deriving DecidableEq, Repr

structure Watching where
  kind : ObserverKind
  testCase : TestCaseId
  /-- The token of its observer. -/
  own : Token
  /-- The token of the run. -/
  parent : Token
  phase : Phase
deriving DecidableEq, Repr

namespace Watching

def isEnded (x : Watching) : Bool :=
  match x.phase with
  | .ended _ => true
  | _ => false

def report? (x : Watching) : Option SessionReport :=
  match x.phase with
  | .ended r => some r
  | _ => none

/-- Was the watching asked to stop? -/
def isStopped (x : Watching) (t : Tokens) : Bool := t.isCancelled x.own || t.isCancelled x.parent

variable {σ : Type}

/-- The feed was opened, or could not be. -/
def opened (x : Watching) (w : Shared σ) (result : Except ObserverError Unit) :
    Watching × Shared σ :=
  match x.phase with
  | .opening =>
    match result with
    | .ok () => ({ x with phase := .live (.start x.kind x.testCase) }, w)
    | .error e =>
      let (r, w) := Session.failOpen x.kind x.testCase e w
      ({ x with phase := .ended r }, w)
  | _ => (x, w)

/-- Takes an item of the feed. -/
def take [EventStore σ] (x : Watching) (w : Shared σ) (item : Session.Item) : Watching × Shared σ :=
  match x.phase with
  | .live s =>
    let (s, w) := s.take w item
    ({ x with phase := .live s }, w)
  | _ => (x, w)

/-- Ends the session. -/
def leave [EventStore σ] (x : Watching) (w : Shared σ) (exit : Exit) : Watching × Shared σ :=
  match x.phase with
  | .live s =>
    let (r, _, w) := s.finish exit w
    ({ x with phase := .ended r }, w)
  | _ => (x, w)

end Watching

structure Crew where
  tokens : Tokens
  watchings : List Watching
deriving DecidableEq, Repr

namespace Crew

def empty : Crew := ⟨.empty, []⟩

def cancel (c : Crew) (k : Token) : Crew := { c with tokens := c.tokens.cancel k }

/-- A token that nobody has yet. -/
def fresh (c : Crew) : Token × Crew := (c.tokens.fresh.1, { c with tokens := c.tokens.fresh.2 })

/-- Adds a watching at its start. -/
def engage (c : Crew) (kind : ObserverKind) (testCase : TestCaseId) (own parent : Token) : Crew :=
  { c with watchings := c.watchings ++ [⟨kind, testCase, own, parent, .opening⟩] }

/-- Have all watchings ended? -/
def isIdle (c : Crew) : Bool := c.watchings.all (·.isEnded)

/-- Changes one watching, together with what is shared. -/
def update {σ : Type} (c : Crew) (w : Shared σ) (i : Nat)
    (f : Watching → Shared σ → Watching × Shared σ) : Crew × Shared σ :=
  match c.watchings[i]? with
  | none => (c, w)
  | some x =>
    let (x, w) := f x w
    ({ c with watchings := c.watchings.set i x }, w)

end Crew

end StorageLifecycle
