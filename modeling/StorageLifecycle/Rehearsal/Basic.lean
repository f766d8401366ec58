import StorageLifecycle.Config.Basic
import StorageLifecycle.Session.Crew
import StorageLifecycle.Rehearsal.Poller

/-!
# Rehearsals

A rehearsal runs a crew of watchings against a source under a virtual clock. The clock stands still
as long as some watching has something to do, and then moves on to the next moment at which one
has. A watching looks at its tokens before it looks at its feed.
-/

namespace StorageLifecycle

/-- Where a watching waits. -/
inductive Post where
  /-- It has not asked for its feed yet. -/
  | asking
  | opening (r : Reply Feed)
  | reading (f : Feed)
  | polling (p : Poller)
  | gone

/-- The next moment at which a watching at a post has something to do. -/
def Post.dueAt (clock : Tick) : Post → Option Tick
  | .asking => some clock
  | .opening r => r.answerAt
  | .reading f =>
    match f.arrivals with
    | (t, _) :: _ => some t
    | [] => f.closesAt
  | .polling p => p.dueAt
  | .gone => none

structure Rehearsal (ω σ : Type) where
  clock : Tick
  /-- The wall clock at the start of the rehearsal. -/
  origin : Instant
  settings : ObserverSettings
  source : ω
  shared : Shared σ
  crew : Crew
  /-- Where each watching of the crew waits. -/
  posts : List Post
  /-- Watchings that were woken, in the order in which they were. -/
  woken : List Nat

namespace Rehearsal

variable {ω σ : Type}

def create (origin : Instant) (settings : ObserverSettings) (source : ω) (shared : Shared σ) :
    Rehearsal ω σ :=
  ⟨0, origin, settings, source, shared, .empty, [], []⟩

/-- The wall clock at a moment. -/
def wallAt (r : Rehearsal ω σ) (t : Tick) : Instant := ⟨r.origin.nanos + t * Tick.nanos⟩

/-- The wall clock now. -/
def wall (r : Rehearsal ω σ) : Instant := r.wallAt r.clock

/-- Wakes a watching that is not awake yet. -/
def wake (r : Rehearsal ω σ) (i : Nat) : Rehearsal ω σ :=
  if r.woken.contains i then r else { r with woken := r.woken ++ [i] }

/-- Takes over a crew that has gone on. Watchings that are new, or that are asked to stop now, are
woken in their order. A crew that has become smaller starts from no posts. -/
def adopt (r : Rehearsal ω σ) (crew : Crew) : Rehearsal ω σ :=
  let known := r.posts.length
  let count := crew.watchings.length
  if count < known then { r with crew, posts := [], woken := [] }
  else
    let wakes (i : Nat) : Bool :=
      known ≤ i || crew.watchings[i]?.any fun x =>
        x.isStopped crew.tokens && !x.isStopped r.crew.tokens
    ((List.range count).filter wakes).foldl wake
      { r with crew, posts := r.posts ++ List.replicate (count - known) .asking }

/-! ## One watching -/

def setPost (r : Rehearsal ω σ) (i : Nat) (p : Post) : Rehearsal ω σ :=
  { r with posts := r.posts.set i p }

/-- Changes a watching together with what is shared, and sends it to a post. -/
def move (r : Rehearsal ω σ) (i : Nat) (p : Post)
    (f : Watching → Shared σ → Watching × Shared σ) : Rehearsal ω σ :=
  let (crew, shared) := r.crew.update r.shared i f
  { r with crew, shared, posts := r.posts.set i p }

/-- The open feed of a kind that a watching reads. -/
def openFeedAt? (r : Rehearsal ω σ) (k : ResourceKind) (i : Nat) : Option Feed :=
  match r.posts[i]?, r.crew.watchings[i]? with
  | some (.reading f), some x =>
    if x.kind.resource = some k ∧ f.closesAt.all (r.clock < ·) then some f else none
  | _, _ => none

/-- Closes the feed of a watching. -/
def closeFeed (r : Rehearsal ω σ) (i : Nat) (f : Feed) : Rehearsal ω σ :=
  (r.setPost i (.reading { f with closesAt := some r.clock })).wake i

/-- Closes the open feeds of a kind that other watchings read. -/
def closeOthers (r : Rehearsal ω σ) (i : Nat) (k : ResourceKind) : Rehearsal ω σ :=
  ((List.range r.posts.length).filter (· ≠ i)).foldl (fun r j =>
    match r.openFeedAt? k j with
    | some f => r.closeFeed j f
    | none => r) r

section

variable [WatchSource ω] [EventStore σ]

/-- Asks for the feed. -/
def ask (r : Rehearsal ω σ) (i : Nat) (x : Watching) : Rehearsal ω σ :=
  match x.kind.resource with
  | some k =>
    let (reply, source) := WatchSource.watch r.source k r.clock r.settings.watchTimeoutMs
    let r := if reply.result matches .ok _ then r.closeOthers i k else r
    { r with source }.setPost i (.opening reply)
  | none =>
    r.move i (.polling (.start r.clock r.settings.countPollIntervalMs r.settings.watchTimeoutMs))
      fun x w => x.opened w (.ok ())

/-- Ends the session of a watching. -/
def dismiss (r : Rehearsal ω σ) (i : Nat) (x : Watching) (exit : Exit) : Rehearsal ω σ :=
  let r := match x.kind.resource with
    | some k => { r with source := WatchSource.leave r.source k r.clock }
    | none => r
  r.move i .gone fun x w => x.leave w exit

/-- Takes what a watch brings. -/
def takeArrival (r : Rehearsal ω σ) (i : Nat) (p : Post) : Arrival → Rehearsal ω σ
  | .notification n => r.move i p fun x w => x.take w (.notification n)
  | .signal s => { r with shared := r.shared.tell [s] }.setPost i p

/-- The warning for a listing that failed; the pods are looked at first. -/
def listingFailed (e : ObserverError) : Signal :=
  .warn "entity count listing failed, skipping tick" [("error", e.message)]

/-- Takes the sample that two listings make, if both succeeded. -/
def takeListing (r : Rehearsal ω σ) (i : Nat) (p : Post)
    (pods claims : Except ObserverError (List Snapshot)) : Rehearsal ω σ :=
  match pods, claims with
  | .ok pods, .ok claims =>
    let item := Session.Item.listing ⟨pods, claims, r.wall⟩
    r.move i p fun x w => x.take w item
  | .error e, _ | _, .error e => { r with shared := r.shared.tell [listingFailed e] }.setPost i p

/-- What a poller does at this moment, if it has something to do. -/
def poll? (r : Rehearsal ω σ) (i : Nat) (x : Watching) (p : Poller) : Option (Rehearsal ω σ) :=
  match p.stage with
  | .resting =>
    if p.deadline ≤ r.clock then some (r.dismiss i x .closed)
    else if p.nextTick ≤ r.clock then
      let (reply, source) := WatchSource.list r.source .pod r.clock
      some ({ r with source }.setPost i
        (.polling { p with nextTick := p.following r.clock, stage := .listingPods reply }))
    else none
  | .listingPods pods =>
    if pods.isThere r.clock then
      let (reply, source) := WatchSource.list r.source .claim r.clock
      some ({ r with source }.setPost i
        (.polling { p with stage := .listingClaims pods.result reply }))
    else none
  | .listingClaims pods claims =>
    if claims.isThere r.clock then
      some (r.takeListing i (.polling { p with stage := .resting }) pods claims.result)
    else none

/-- What a watching does at this moment, if it has something to do. -/
def step? (r : Rehearsal ω σ) (i : Nat) : Option (Rehearsal ω σ) :=
  match r.crew.watchings[i]?, r.posts[i]? with
  | some x, some post =>
    let stopped := x.isStopped r.crew.tokens
    match post with
    | .asking => some (r.ask i x)
    | .opening reply =>
      if reply.isThere r.clock then
        match reply.result with
        | .ok f => some (r.move i (.reading f) fun x w => x.opened w (.ok ()))
        | .error e => some (r.move i .gone fun x w => x.opened w (.error e))
      else none
    | .reading f =>
      if stopped then some (r.dismiss i x .stop)
      else
        match f.arrivals with
        | (t, a) :: rest =>
          if t ≤ r.clock then some (r.takeArrival i (.reading { f with arrivals := rest }) a)
          else none
        | [] => if f.closesAt.any (· ≤ r.clock) then some (r.dismiss i x .closed) else none
    | .polling p => if stopped then some (r.dismiss i x .stop) else r.poll? i x p
    | .gone => none
  | _, _ => none

/-- Lets a watching go on for as long as it has something to do, up to so many steps. -/
def attend (r : Rehearsal ω σ) (i : Nat) : Nat → Rehearsal ω σ
  | 0 => r
  | fuel + 1 =>
    match r.step? i with
    | some r => r.attend i fuel
    | none => r

/-- How many steps a watching can need at one moment. -/
def workload (r : Rehearsal ω σ) (i : Nat) : Nat :=
  match r.posts[i]? with
  | some (.reading f) => f.arrivals.length + 2
  | some (.opening { result := .ok f, .. }) => f.arrivals.length + 4
  | _ => 32

/-- Lets every watching go on that has something to do: those that were woken first. -/
def settleOnce (r : Rehearsal ω σ) : Rehearsal ω σ :=
  let order := r.woken ++ (List.range r.posts.length).filter fun i => !r.woken.contains i
  order.foldl (fun r i => r.attend i (r.workload i)) { r with woken := [] }

end

/-! ## The clock -/

/-- The next moment at which some watching has something to do. -/
def nextDue (r : Rehearsal ω σ) : Option Tick :=
  let timed := r.posts.foldl (fun acc p => Tick.earlier acc (p.dueAt r.clock)) none
  if r.woken.isEmpty then timed else some r.clock

section

variable [WatchSource ω] [EventStore σ]

/-- Moves the clock from moment to moment while `go` says so, up to so many moments. -/
def runWhile (go : Rehearsal ω σ → Tick → Bool) (r : Rehearsal ω σ) : Nat → Rehearsal ω σ
  | 0 => r
  | fuel + 1 =>
    match r.nextDue with
    | none => r
    | some t =>
      if go r t then { r with clock := max r.clock t }.settleOnce.runWhile go fuel else r

/-- How many moments with something to do there can be in so many milliseconds. -/
def moments (r : Rehearsal ω σ) (ms : Nat) : Nat :=
  let arrivals := r.posts.foldl (fun n p => match p with
    | .reading f => n + f.arrivals.length
    | .opening { result := .ok f, .. } => n + f.arrivals.length
    | _ => n) 0
  arrivals + 8 * (r.posts.length + 1) * (ms + 8)

/-- Lets so many milliseconds pass; all that is due by then is done. -/
def advance (r : Rehearsal ω σ) (ms : Nat) : Rehearsal ω σ :=
  let target := r.clock + ms
  { r.runWhile (fun _ t => t ≤ target) (r.moments ms) with clock := target }

/-- Lets the clock run until every watching has ended. `bound` is a number of milliseconds in
which all of them do. -/
def runToEnd (r : Rehearsal ω σ) (bound : Nat) : Rehearsal ω σ :=
  r.runWhile (fun r _ => !r.crew.isIdle) (r.moments bound)

end

/-! ## The script of a feed -/

/-- What became of a notification that was sent. -/
inductive Delivery where
  | sent
  | closed
  | full
deriving DecidableEq, Repr

/-- How many notifications a feed holds. -/
def capacity : Nat := 4096

/-- The watching that reads the open feed of a kind. -/
def openFeed? (r : Rehearsal ω σ) (k : ResourceKind) : Option (Nat × Feed) :=
  (List.range r.posts.length).reverse.findSome? fun i => (r.openFeedAt? k i).map (i, ·)

/-- Sends a notification into the feed of a kind. -/
def send (r : Rehearsal ω σ) (k : ResourceKind) (n : Notification) : Delivery × Rehearsal ω σ :=
  match r.openFeed? k with
  | none => (.closed, r)
  | some (i, f) =>
    if capacity ≤ f.arrivals.length then (.full, r)
    else
      let f := { f with arrivals := f.arrivals ++ [(r.clock, .notification n)] }
      (.sent, (r.setPost i (.reading f)).wake i)

/-- Closes the feed of a kind: was there one? -/
def expire (r : Rehearsal ω σ) (k : ResourceKind) : Bool × Rehearsal ω σ :=
  match r.openFeed? k with
  | none => (false, r)
  | some (i, f) => (true, r.closeFeed i f)

end Rehearsal

end StorageLifecycle
