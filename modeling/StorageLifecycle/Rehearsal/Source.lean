import StorageLifecycle.Cluster.Service

/-!
# Sources of a rehearsal

A source says when it will answer, what the answer is, and what a watch will bring at which moment.
There are two: a script, which does as it is told, and a cluster, which is asked for windows and
listings.
-/

namespace StorageLifecycle

/-- What a watch brings, or reports about its own work. -/
inductive Arrival where
  | notification (n : Notification)
  | signal (s : Signal)
deriving DecidableEq, Repr

/-- What a watch brings at which moments, in order, and the moment at which it closes, behind all of
them. -/
structure Feed where
  arrivals : List (Tick × Arrival)
  closesAt : Option Tick
deriving DecidableEq, Repr

/-- An answer, and the moment at which it comes, if it ever does. -/
structure Reply (α : Type) where
  answerAt : Option Tick
  result : Except ObserverError α

namespace Reply

/-- An answer that comes at once. -/
def now {α : Type} (clock : Tick) (result : Except ObserverError α) : Reply α :=
  ⟨some clock, result⟩

/-- Has the answer come by this moment? -/
def isThere {α : Type} (r : Reply α) (clock : Tick) : Bool := r.answerAt.any (· ≤ clock)

end Reply

/-- A source of watches and listings. -/
class WatchSource (ω : Type) where
  /-- Opens a watch at a moment, to be kept open for so many milliseconds at most. -/
  watch : ω → ResourceKind → (clock : Tick) → (timeout : Nat) → Reply Feed × ω
  /-- The reader of the watch has left at a moment. -/
  leave : ω → ResourceKind → (clock : Tick) → ω
  /-- Lists the resources of a kind at a moment. -/
  list : ω → ResourceKind → (clock : Tick) → Reply (List Snapshot) × ω

/-! ## A scripted source -/

/-- A source that does as it is told: which watches cannot be opened, and what is listed. -/
structure Script where
  failures : List (ResourceKind × ObserverError)
  lists : List (ResourceKind × Except ObserverError (List Snapshot))

namespace Script

/-- Every watch can be opened, and nothing is listed. -/
def empty : Script := ⟨[], []⟩

/-- From now on the watch of a kind cannot be opened. -/
def failWatch (s : Script) (k : ResourceKind) (e : ObserverError) : Script :=
  { s with failures := (k, e) :: s.failures.filter fun p => p.1 != k }

/-- From now on the watch of a kind can be opened. -/
def healWatch (s : Script) (k : ResourceKind) : Script :=
  { s with failures := s.failures.filter fun p => p.1 != k }

/-- From now on the listing of a kind has this result. -/
def setList (s : Script) (k : ResourceKind) (result : Except ObserverError (List Snapshot)) :
    Script :=
  { s with lists := (k, result) :: s.lists.filter fun p => p.1 != k }

instance : WatchSource Script where
  watch s k clock timeout :=
    (.now clock (match s.failures.lookup k with
      | some e => .error e
      | none => .ok ⟨[], some (clock + timeout)⟩), s)
  leave s _ _ := s
  list s k clock := (.now clock ((s.lists.lookup k).getD (.ok [])), s)

end Script

/-! ## A cluster as a source -/

/-- A cluster, and the wall clock at the start of the rehearsal. -/
structure ClusterSource where
  cluster : Cluster
  origin : Instant
deriving DecidableEq, Repr

namespace ClusterSource

/-- The wall clock at a moment. -/
def wallAt (origin : Instant) (t : Tick) : Instant := ⟨origin.nanos + t * Tick.nanos⟩

/-- What the pump of a watch brings to a reader who takes everything at once. -/
def feed (origin : Instant) (p : Pump) : Feed :=
  let notifications := p.passages.map fun d =>
    (d.sentAt, Arrival.notification ⟨d.change, d.object, wallAt origin d.sentAt⟩)
  let warnings := p.warnings.map fun (t, s) => (t, Arrival.signal s)
  ⟨(notifications ++ warnings).mergeSort fun a b => decide (a.1 ≤ b.1), some p.clock⟩

/-- The watch has its reader, or could not be opened. -/
def watch (s : ClusterSource) (kind : ResourceKind) (clock : Tick) (timeout : Nat) :
    Reply Feed × ClusterSource :=
  let p := s.cluster.pump kind ⟨s.cluster.buffer, 0, none, none⟩ clock timeout
  match p.opening with
  | .ok t =>
    (⟨some t, .ok (feed s.origin p)⟩,
      { s with cluster := { s.cluster with pumps := (kind, p) :: s.cluster.pumps } })
  | .error e => (⟨some p.clock, .error e⟩, { s with cluster := s.cluster.account p p.clock })

/-- The reader has left: what the watch asked for until then was asked for. -/
def leave (s : ClusterSource) (kind : ResourceKind) (clock : Tick) : ClusterSource :=
  match s.cluster.pumps.lookup kind with
  | none => s
  | some p =>
    let c := s.cluster.account p clock
    { s with cluster :=
        { c with
          pumps := c.pumps.filter fun q => q.1 != kind
          reports := c.reports ++ p.overdue clock } }

def list (s : ClusterSource) (kind : ResourceKind) (clock : Tick) :
    Reply (List Snapshot) × ClusterSource :=
  let (answer, cluster) := s.cluster.list kind clock
  (match answer with
    | some (t, r) => ⟨some t, r⟩
    | none => ⟨none, .ok []⟩, { s with cluster })

instance : WatchSource ClusterSource := ⟨watch, leave, list⟩

end ClusterSource

/-- The source of a rehearsal. -/
inductive Source where
  | script (s : Script)
  | cluster (c : ClusterSource)

namespace Source

instance : WatchSource Source where
  watch
    | script s, k, clock, timeout =>
      let (r, s) := WatchSource.watch s k clock timeout
      (r, script s)
    | cluster c, k, clock, timeout =>
      let (r, c) := WatchSource.watch c k clock timeout
      (r, cluster c)
  leave
    | script s, k, clock => script (WatchSource.leave s k clock)
    | cluster c, k, clock => cluster (WatchSource.leave c k clock)
  list
    | script s, k, clock =>
      let (r, s) := WatchSource.list s k clock
      (r, script s)
    | cluster c, k, clock =>
      let (r, c) := WatchSource.list c k clock
      (r, cluster c)

/-- How many milliseconds answers can take together. -/
def delays : Source → Nat
  | script _ => 0
  | cluster c => c.cluster.delays

/-- What was reported up to a moment about watches that nobody reads any more; it is reported
once. -/
def collect (clock : Tick) : Source → List Signal × Source
  | script s => ([], script s)
  | cluster c =>
    let (due, later) := c.cluster.reports.partition fun (t, _) => t ≤ clock
    (due.map (·.2), cluster { c with cluster := { c.cluster with reports := later } })

/-- Changes the script; a cluster has none. -/
def onScript (f : Script → Script) : Source → Source
  | script s => script (f s)
  | cluster c => cluster c

end Source

end StorageLifecycle
