import StorageLifecycle.Json.Reader

/-!
# Decoding documents

A decoder reads a value of some type from a tree. It walks the tree in the order of the text, so
the first objection or break decides what is reported. A record is read from an object, whose
further members are skipped, or from an array of its fields in their order.
-/

namespace StorageLifecycle.Json

/-- Why a document was not decoded: the text breaks off, it is malformed, or it says something
else than was expected. -/
inductive DecodeError where
  | endOfInput
  | malformed
  | mismatch
deriving DecidableEq, Repr

def DecodeError.ofBreak : Break → DecodeError
  | .endOfInput => endOfInput
  | .malformed => malformed

abbrev Decoder (α : Type) := Json → Except DecodeError α

namespace Decoder

variable {α : Type}

/-- The objection to a value of the wrong kind. -/
def objection : Json → DecodeError
  | flawedString flaw | flawed flaw => .ofBreak flaw.read
  | missing => .endOfInput
  | _ => .mismatch

def text : Decoder String
  | string s => .ok s
  | j => .error (objection j)

def truth : Decoder Bool
  | bool b => .ok b
  | j => .error (objection j)

/-- A whole number from `low` up to but not including `bound`. -/
def whole (low bound : Int) : Decoder Int
  | integer i => if low ≤ i ∧ i < bound then .ok i else .error .mismatch
  | j => .error (objection j)

/-- A whole number that is not negative and lies below `bound`. -/
def natural (bound : Nat) : Decoder Nat := fun j => (whole 0 bound j).map Int.toNat

/-- A value or `null`. -/
def optional (d : Decoder α) : Decoder (Option α)
  | null => .ok none
  | j => (d j).map some

/-- Skips a value. -/
def skipped : Decoder Unit := fun j =>
  match j.skipBreak with
  | some b => .error (.ofBreak b)
  | none => .ok ()

/-- Any value, all of which can be read. -/
def captured : Decoder Json := fun j =>
  match j.readBreak with
  | some b => .error (.ofBreak b)
  | none => .ok j

/-- The end of an array or object. -/
def close (stop : Option Flaw) : Except DecodeError Unit :=
  match stop with
  | some flaw => .error (.ofBreak flaw.read)
  | none => .ok ()

/-- One of the words. -/
def oneOf (words : List String) : Decoder String := fun j => do
  let s ← text j
  if s ∈ words then .ok s else .error .mismatch

/-- One of the words, as a string or as the only key of an object with `null` under it. -/
def word (words : List String) : Decoder String
  | object ((s, j) :: more) stop =>
    if s ∈ words then
      match j with
      | null => if more.isEmpty then (close stop).map fun _ => s else .error .malformed
      | j => .error (objection j)
    else .error .mismatch
  | object [] (some flaw) => .error (.ofBreak flaw.read)
  | flawed _ => .error .malformed
  | j => oneOf words j

/-- A list of values. -/
def list (d : Decoder α) : Decoder (List α)
  | array items stop => do
    let xs ← items.mapM d
    close stop
    return xs
  | j => .error (objection j)

/-! ## Records -/

/-- A field of a record under construction: how its value is put in, what a missing member means,
and what a missing item of an array means. -/
structure RecordField (σ : Type) where
  name : String
  put : σ → Json → Except DecodeError σ
  missing : σ → Except DecodeError σ
  short : σ → Except DecodeError σ

/-- A field that has to be there. -/
def required {σ : Type} (name : String) (d : Decoder α) (set : σ → α → σ) : RecordField σ where
  name := name
  put s j := (d j).map (set s)
  missing _ := .error .mismatch
  short _ := .error .mismatch

/-- A field that keeps its default when it is missing. -/
def defaulted {σ : Type} (name : String) (d : Decoder α) (set : σ → α → σ) : RecordField σ where
  name := name
  put s j := (d j).map (set s)
  missing s := .ok s
  short s := .ok s

/-- A field that is none when its member is missing; in an array it has to be there. -/
def orNone {σ : Type} (name : String) (d : Decoder α) (set : σ → Option α → σ) : RecordField σ where
  name := name
  put s j := (optional d j).map (set s)
  missing s := .ok (set s none)
  short _ := .error .mismatch

/-- Puts the members in from left to right. A field may stand once; other members are skipped. -/
def putMembers {σ : Type} (fields : List (RecordField σ)) (seen : List String) (s : σ) :
    List (String × Json) → Except DecodeError (σ × List String)
  | [] => .ok (s, seen)
  | (k, j) :: rest =>
    match fields.find? fun f => f.name == k with
    | none => do
      skipped j
      putMembers fields seen s rest
    | some f =>
      if seen.contains k then .error .mismatch
      else do
        let s ← f.put s j
        putMembers fields (k :: seen) s rest

/-- What to do with items of an array behind the last field. -/
inductive Surplus where
  | refuse
  | ignore
deriving DecidableEq

/-- Puts the items in, one for each field. -/
def putItems {σ : Type} (surplus : Surplus) : List (RecordField σ) → List Json → Option Flaw → σ →
    Except DecodeError σ
  | [], items, stop, s => do
    if surplus = .refuse ∧ !items.isEmpty then .error .malformed
    close stop
    return s
  | f :: fs, [], stop, s => do
    close stop
    putItems surplus fs [] none (← f.short s)
  | f :: fs, j :: js, stop, s => do putItems surplus fs js stop (← f.put s j)

/-- A record, built up from a start. -/
def record {σ : Type} (surplus : Surplus) (fields : List (RecordField σ)) (start : σ) : Decoder σ
  | object members stop => do
    let (s, seen) ← putMembers fields [] start members
    close stop
    (fields.filter fun f => !seen.contains f.name).foldlM (fun s f => f.missing s) s
  | array items stop => putItems surplus fields items stop start
  | j => .error (objection j)

end Decoder

/-- Decodes a whole text: nothing but space may stand behind the value. -/
def Document.decode {α : Type} (d : Document) (decoder : Decoder α) : Except DecodeError α := do
  let a ← decoder d.value
  if d.trailing then .error .malformed else .ok a

end StorageLifecycle.Json
