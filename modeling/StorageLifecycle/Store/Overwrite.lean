import StorageLifecycle.Store.Relational

/-!
# Overwriting cells

Someone else who has the database open may set a cell of a row to any value. Foreign keys are not
checked then; the kinds of the columns, unique keys and required columns still are.
-/

namespace StorageLifecycle.RelationalStore

open Relational

/-- A change of one cell: the table, the column, the id of the row, and the value. -/
structure Overwrite where
  table : String
  column : String
  id : Int
  value : Cell
deriving DecidableEq, Repr

namespace Overwrite

def mismatch : StoreError := .query "datatype mismatch"

def notUnique (columns : String) : StoreError := .query ("UNIQUE constraint failed: " ++ columns)

/-- The value for a column that may not be empty. -/
def required (o : Overwrite) (value : Cell) : Except StoreError Cell :=
  if value = .null then
    .error (.query ("NOT NULL constraint failed: " ++ o.table ++ "." ++ o.column))
  else .ok value

def requiredText (o : Overwrite) : Except StoreError Cell := o.required o.value.asText

def requiredInteger (o : Overwrite) : Except StoreError Cell := o.required o.value.asInteger

/-- The value for the column of row ids. -/
def rowId (o : Overwrite) : Except StoreError Int :=
  match o.value.asInteger with
  | .integer i => .ok i
  | _ => .error mismatch

def noColumn (o : Overwrite) : StoreError := .query ("no such column: " ++ o.column)

/-- Changes the row with the id, if there is one, and keeps the rows in the order of their ids. -/
def apply {ρ : Type} (o : Overwrite) (t : Table ρ) (idOf : ρ → Int)
    (change : ρ → Except StoreError ρ) (clash : ρ → ρ → Option String) :
    Except StoreError (Nat × Table ρ) :=
  match t.rows.find? fun r => idOf r == o.id with
  | none => .ok (0, t)
  | some r => do
    let r' ← change r
    let others := t.rows.filter fun x => idOf x != o.id
    if others.any fun x => idOf x == idOf r' then .error (notUnique (o.table ++ ".id"))
    else match others.findSome? (clash r') with
      | some columns => .error (notUnique columns)
      | none => .ok (1, { t with rows := (r' :: others).mergeSort fun a b => idOf a ≤ idOf b })

def testCaseChange (o : Overwrite) (r : TestCaseRow) : Except StoreError TestCaseRow :=
  match o.column with
  | "id" => o.rowId.map fun id => { r with id }
  | "name" => o.requiredText.map fun name => { r with name }
  | "run_name" => o.requiredText.map fun runName => { r with runName }
  | "started_at" => o.requiredInteger.map fun startedAt => { r with startedAt }
  | "ended_at" => .ok { r with endedAt := o.value.asInteger }
  | "success" => .ok { r with success := o.value.asInteger }
  | _ => .error o.noColumn

def entityChange (o : Overwrite) (r : EntityRow) : Except StoreError EntityRow :=
  match o.column with
  | "id" => o.rowId.map fun id => { r with id }
  | "name" => o.requiredText.map fun name => { r with name }
  | "k8s_uid" => o.requiredText.map fun uid => { r with uid }
  | "entity_type" => o.requiredText.map fun type => { r with type }
  | "tc_id" => o.requiredInteger.map fun testCase => { r with testCase }
  | _ => .error o.noColumn

def entityClash (a b : EntityRow) : Option String :=
  if a.uid = b.uid then some "entities.k8s_uid"
  else if a.type = b.type ∧ a.name = b.name ∧ a.testCase = b.testCase then
    some "entities.entity_type, entities.name, entities.tc_id"
  else none

def eventChange (o : Overwrite) (r : EventRow) : Except StoreError EventRow :=
  match o.column with
  | "id" => o.rowId.map fun id => { r with id }
  | "name" => o.requiredText.map fun name => { r with name }
  | "tc_id" => o.requiredInteger.map fun testCase => { r with testCase }
  | "entity_id" => o.requiredInteger.map fun entity => { r with entity }
  | "event_type" => o.requiredText.map fun type => { r with type }
  | "timestamp" => o.requiredInteger.map fun timestamp => { r with timestamp }
  | _ => .error o.noColumn

def eventClash (a b : EventRow) : Option String :=
  if a.name = b.name then some "events.name" else none

def countChange (o : Overwrite) (r : CountRow) : Except StoreError CountRow :=
  match o.column with
  | "id" => o.rowId.map fun id => { r with id }
  | "tc_id" => o.requiredInteger.map fun testCase => { r with testCase }
  | "timestamp" => o.requiredInteger.map fun timestamp => { r with timestamp }
  | "pods_creating" => o.requiredInteger.map fun podsCreating => { r with podsCreating }
  | "pods_ready" => o.requiredInteger.map fun podsReady => { r with podsReady }
  | "pods_terminating" => o.requiredInteger.map fun podsTerminating => { r with podsTerminating }
  | "pvc_creating" => o.requiredInteger.map fun pvcCreating => { r with pvcCreating }
  | "pvc_bound" => o.requiredInteger.map fun pvcBound => { r with pvcBound }
  | "pvc_terminating" => o.requiredInteger.map fun pvcTerminating => { r with pvcTerminating }
  | _ => .error o.noColumn

end Overwrite

/-- Carries out a change from outside: the number of rows changed. -/
def overwrite (s : RelationalStore) (o : Overwrite) : Except StoreError (Nat × RelationalStore) :=
  match o.table with
  | "test_cases" => do
    let (n, testCases) ← o.apply s.testCases TestCaseRow.id o.testCaseChange fun _ _ => none
    return (n, { s with testCases })
  | "entities" => do
    let (n, entities) ← o.apply s.entities EntityRow.id o.entityChange Overwrite.entityClash
    return (n, { s with entities })
  | "events" => do
    let (n, events) ← o.apply s.events EventRow.id o.eventChange Overwrite.eventClash
    return (n, { s with events })
  | "entity_counts" => do
    let (n, counts) ← o.apply s.counts CountRow.id o.countChange fun _ _ => none
    return (n, { s with counts })
  | _ => .error (.query ("no such table: " ++ o.table))

end StorageLifecycle.RelationalStore
