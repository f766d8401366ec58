import StorageLifecycle.Json.Decode
import StorageLifecycle.Time.Rfc3339
import StorageLifecycle.Text.Word

/-!
# Shapes of cluster objects

An object of the cluster is read leniently: properties may be missing or `null`, further ones are
skipped, and of a repeated one the last counts. The value of a known property has to be of its
type. An object is never written as an array.
-/

namespace StorageLifecycle.Schema

open Json Decoder

/-- A property of an object under construction, and how its value is put in. -/
structure Property (σ : Type) where
  name : String
  put : σ → Json → Except DecodeError σ

variable {σ α : Type}

/-- A property that is kept; `null` means that there is none. -/
def kept (name : String) (d : Decoder α) (set : σ → Option α → σ) : Property σ where
  name := name
  put s j := (optional d j).map (set s)

/-- A property that is looked at and not kept. -/
def passed (name : String) (d : Decoder α) : Property σ where
  name := name
  put s j := (optional d j).map fun _ => s

/-- A property that has to have one value, if it is there. -/
def fixed (name value : String) : Property σ where
  name := name
  put s j := do if (← text j) = value then .ok s else .error .mismatch

/-- Puts the members in from left to right. -/
def putMembers (properties : List (Property σ)) (s : σ) :
    List (String × Json) → Except DecodeError σ
  | [] => .ok s
  | (k, j) :: rest =>
    match properties.find? fun p => p.name == k with
    | none => do
      skipped j
      putMembers properties s rest
    | some p => do putMembers properties (← p.put s j) rest

/-- An object, built up from a start. -/
def record (properties : List (Property σ)) (start : σ) : Decoder σ
  | .object members stop => do
    let s ← putMembers properties start members
    close stop
    return s
  | j => .error (objection j)

/-! ## Shapes

A shape is a decoder that keeps nothing. -/

/-- What a value has to look like. -/
abbrev Shape := Decoder Unit

def aText : Shape := fun j => (text j).map fun _ => ()

def aTruth : Shape := fun j => (truth j).map fun _ => ()

/-- A whole number of 32 bits. -/
def aNumber : Shape := fun j => (whole (-Word.half 32) (Word.half 32) j).map fun _ => ()

/-- A whole number of 64 bits. -/
def aLongNumber : Shape := fun j => (whole (-Word.half 64) (Word.half 64) j).map fun _ => ()

/-- A moment, in the lenient form of RFC 3339. -/
def moment : Decoder Rfc3339.Stamp := fun j => do
  match Rfc3339.readStamp (← text j) with
  | some t => .ok t
  | none => .error .mismatch

def aMoment : Shape := fun j => (moment j).map fun _ => ()

/-- A whole number of 32 bits or a text. -/
def aNumberOrText : Shape := fun j =>
  match j with
  | .string _ => .ok ()
  | j => aNumber j

/-- Any value that can be read. -/
def anyValue : Shape := fun j => (captured j).map fun _ => ()

/-- A list of values of one shape. -/
def listOf (s : Shape) : Shape := fun j => (Decoder.list s j).map fun _ => ()

/-- An object with any keys and values of one shape. -/
def mapOf (s : Shape) : Shape
  | .object members stop => do
    members.forM fun (_, j) => s j
    close stop
  | j => .error (objection j)

/-- An object with these properties. -/
def fields (properties : List (String × Shape)) : Shape :=
  record (properties.map fun (name, s) => passed name s) ()

def texts : Shape := listOf aText

def textMap : Shape := mapOf aText

end StorageLifecycle.Schema
