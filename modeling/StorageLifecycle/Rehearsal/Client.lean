import StorageLifecycle.Cluster.Service

/-!
# Clients of a cluster

A client makes one call after the other. A call takes as long as its answer, and a watch as long as
its reader stays.
-/

namespace StorageLifecycle

inductive Call where
  | sleep (ms : Nat)
  | list (kind : ResourceKind)
  | watch (kind : ResourceKind) (timeout : Nat) (reader : Reader)

/-- The answer of a call. -/
inductive CallAnswer where
  | slept
  | listed (r : Except ObserverError (List Snapshot))
  | watched (p : Pump)
  /-- There is no answer, and there are no further calls. -/
  | never

structure Client where
  cluster : Cluster
  clock : Tick
  /-- Have the pumps had their turn at this moment? A client whose time has come goes first. -/
  turned : Bool

namespace Client

def create (cluster : Cluster) : Client := ⟨cluster, 0, true⟩

def perform (c : Client) : Call → CallAnswer × Client
  | .sleep ms => (.slept, { c with clock := c.clock + ms, turned := c.turned && ms == 0 })
  | .list kind =>
    let (answer, cluster) := c.cluster.list kind c.clock
    match answer with
    | some (t, r) => (.listed r, ⟨cluster, t, t == c.clock⟩)
    | none => (.never, { c with cluster })
  | .watch kind timeout reader =>
    let p := c.cluster.pump kind reader c.clock timeout
    let cluster := c.cluster.account p p.clock
    (.watched p,
      ⟨{ cluster with reports := cluster.reports ++ p.warnings }, p.doneAt, p.isPrompt⟩)

/-- Makes the calls in their order, up to one that never ends. -/
def performAll (c : Client) : List Call → List CallAnswer × Client
  | [] => ([], c)
  | call :: rest =>
    match c.perform call with
    | (.never, c) => ([.never], c)
    | (a, c) =>
      let (more, c) := performAll c rest
      (a :: more, c)

/-- What was reported so far. Pumps that are left behind go on, but nobody waits for them. -/
def reports (c : Client) : List Signal :=
  (c.cluster.reports.filter fun (t, _) => t < c.clock || t == c.clock && c.turned).map (·.2)

end Client

end StorageLifecycle
