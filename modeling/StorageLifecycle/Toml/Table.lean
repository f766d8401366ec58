import StorageLifecycle.Json.Basic

/-!
# Tables of TOML

A document builds one table step by step. How a table came about decides what may still be added to
it: a table that a longer header implied may get a header of its own once; dotted keys fill tables
that they made and tables that are only implied; an inline table is closed.
-/

namespace StorageLifecycle.Toml

/-- How a table came about. -/
inductive Origin where
  | header
  | implied
  | dotted
  | inline
deriving DecidableEq, Repr

inductive Node where
  | leaf (value : Json)
  | array (items : List Node)
  /-- Tables under a header in double brackets. -/
  | tables (items : List (Origin × List (String × Node)))
  | table (origin : Origin) (entries : List (String × Node))
deriving Inhabited

structure Table where
  origin : Origin
  entries : List (String × Node)

namespace Table

def find? (t : Table) (k : String) : Option Node := t.entries.lookup k

/-- Puts a node under a key, in place of the one that is there. -/
def put (t : Table) (k : String) (n : Node) : Table :=
  if (t.find? k).isSome then
    { t with entries := t.entries.map fun (k', n') => if k' = k then (k, n) else (k', n') }
  else { t with entries := t.entries ++ [(k, n)] }

def toNode (t : Table) : Node := .table t.origin t.entries

/-- Walks down a path and changes the table at its end. Tables on the way are made if they are
missing; of several tables under one header it is the last. -/
def descend (dotted : Bool) (change : Table → Option Table) : List String → Table → Option Table
  | [], t => change t
  | k :: ks, t =>
    match t.find? k with
    | none => do
      let made : Table := ⟨if dotted then .dotted else .implied, []⟩
      let child ← descend dotted change ks made
      some (t.put k child.toNode)
    | some (.table origin entries) =>
      if origin = .inline ∨ (dotted ∧ origin = .header) then none
      else do
        let child ← descend dotted change ks ⟨origin, entries⟩
        some (t.put k child.toNode)
    | some (.tables items) =>
      match items.getLast? with
      | none => none
      | some (origin, entries) => do
        let child ← descend dotted change ks ⟨origin, entries⟩
        some (t.put k (.tables (items.dropLast ++ [(child.origin, child.entries)])))
    | some _ => none

/-- Defines the value of a key, reached over a path of dotted keys. -/
def define (path : List String) (k : String) (n : Node) (t : Table) : Option Table :=
  t.descend true (fun parent =>
    if path ≠ [] ∧ (parent.origin = .header ∨ parent.origin = .inline) then none
    else if (parent.find? k).isSome then none
    else some (parent.put k n)) path

/-- Opens the table of a header. -/
def openTable (path : List String) (k : String) (t : Table) : Option Table :=
  t.descend false (fun parent =>
    match parent.find? k with
    | none => some (parent.put k (.table .header []))
    | some (.table .implied entries) => some (parent.put k (.table .header entries))
    | some _ => none) path

/-- Opens a further table of a header in double brackets. -/
def openItem (path : List String) (k : String) (t : Table) : Option Table :=
  t.descend false (fun parent =>
    match parent.find? k with
    | none => some (parent.put k (.tables [(.header, [])]))
    | some (.tables items) => some (parent.put k (.tables (items ++ [(.header, [])])))
    | some _ => none) path

/-- Changes the table that a header opened. -/
def within (change : Table → Option Table) : List String → Table → Option Table
  | [], t => change t
  | k :: ks, t =>
    match t.find? k with
    | some (.table origin entries) => do
      let child ← within change ks ⟨origin, entries⟩
      some (t.put k child.toNode)
    | some (.tables items) =>
      match items.getLast? with
      | none => none
      | some (origin, entries) => do
        let child ← within change ks ⟨origin, entries⟩
        some (t.put k (.tables (items.dropLast ++ [(child.origin, child.entries)])))
    | _ => none

end Table

mutual

/-- The tree as a document. -/
def Node.toJson : Node → Json
  | .leaf j => j
  | .array items => .ofItems (nodesToJson items)
  | .tables items => .ofItems (tablesToJson items)
  | .table _ entries => .ofMembers (entriesToJson entries)

def nodesToJson : List Node → List Json
  | [] => []
  | n :: rest => n.toJson :: nodesToJson rest

def tablesToJson : List (Origin × List (String × Node)) → List Json
  | [] => []
  | (_, entries) :: rest => .ofMembers (entriesToJson entries) :: tablesToJson rest

def entriesToJson : List (String × Node) → List (String × Json)
  | [] => []
  | (k, n) :: rest => (k, n.toJson) :: entriesToJson rest

end

end StorageLifecycle.Toml
