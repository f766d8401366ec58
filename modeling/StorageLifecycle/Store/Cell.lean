import StorageLifecycle.Failure
import StorageLifecycle.Text.Double

/-!
# Cells of a relational store

A cell holds a value of one of four kinds, whatever its column was declared for. A column still has
an affinity: a value written into it is converted to the declared kind where nothing is lost. A
reader that expects one kind refuses a cell of another with an error that names the column.
-/

namespace StorageLifecycle

/-- A value of a cell. -/
inductive Cell where
  | null
  | integer (value : Int)
  | real (value : Double)
  | text (value : String)
deriving DecidableEq, Repr, Inhabited

namespace Cell

/-- Does the number fit a signed word of 64 bits? -/
def fitsWord (i : Int) : Bool := -(Word.half 64 : Int) ≤ i && i < Word.half 64

/-- The name of the kind of a cell. -/
def kind : Cell → String
  | null => "Null"
  | integer _ => "Integer"
  | real _ => "Real"
  | text _ => "Text"

/-! ## Affinity -/

/-- A real number, as a whole one if it is one and lies between the ends of the signed words. -/
def ofReal (x : Double) : Cell :=
  match x.whole? with
  | some i => if -(Word.half 64 : Int) < i ∧ i < Word.half 64 - 1 then integer i else real x
  | none => real x

/-- The double of a number in a text, of whose digits no more than nineteen or so count. -/
def doubleOf (digits exponent : Int) : Double :=
  let (n, dropped) := Decimal.leading (Word.half 64 - 18) digits.natAbs
  Double.negateIf (digits < 0) (Double.ofDecimal n (exponent + dropped))

/-- What a column of whole numbers keeps of a value. A text of digits alone is a whole number if it
fits; any other number goes by its double. -/
def asInteger : Cell → Cell
  | text s => match Decimal.scientific? s with
    | some (digits, exponent) =>
      if fitsWord digits ∧ s.toList.all (fun c => c != '.' && c != 'e' && c != 'E') then
        integer digits
      else ofReal (doubleOf digits exponent)
    | none => text s
  | real x => ofReal x
  | c => c

/-- What a column of text keeps of a value. -/
def asText : Cell → Cell
  | integer i => text (toString i)
  | real x => text x.write
  | c => c

/-! ## Order -/

/-- The kinds in their order: nothing, numbers, texts. -/
def rank : Cell → Nat
  | null => 0
  | integer _ | real _ => 1
  | text _ => 2

/-- A number as a multiple of the least positive double. -/
def multiple : Cell → Int
  | integer i => i * Double.unit
  | real x => x.multiple
  | _ => 0

/-- Cells sort by kind, numbers by value, texts by their code points. -/
def le (a b : Cell) : Bool :=
  if a.rank ≠ b.rank then a.rank < b.rank
  else match a, b with
    | text s, text t => decide (s ≤ t)
    | a, b => a.multiple ≤ b.multiple

/-! ## Reading -/

/-- The error for a cell of another kind than the reader expects. -/
def wrongKind (c : Cell) (index : Nat) (column : String) : StoreError :=
  .query
    ("Invalid column type " ++ c.kind ++ " at index: " ++ toString index ++ ", name: " ++ column)

def readInt (c : Cell) (index : Nat) (column : String) : Except StoreError Int :=
  match c with
  | integer i => .ok i
  | c => .error (c.wrongKind index column)

def readText (c : Cell) (index : Nat) (column : String) : Except StoreError String :=
  match c with
  | text s => .ok s
  | c => .error (c.wrongKind index column)

/-- A whole number that may be missing. -/
def readInt? (c : Cell) (index : Nat) (column : String) : Except StoreError (Option Int) :=
  match c with
  | null => .ok none
  | c => (c.readInt index column).map some

/-- A truth value that may be missing; every number but zero is true. -/
def readBool? (c : Cell) (index : Nat) (column : String) : Except StoreError (Option Bool) :=
  match c with
  | null => .ok none
  | c => (c.readInt index column).map fun i => some (i != 0)

/-- A count of 32 bits. -/
def readCount (c : Cell) (index : Nat) (column : String) : Except StoreError Nat := do
  let i ← c.readInt index column
  if 0 ≤ i ∧ i < Word.bound 32 then .ok i.toNat
  else .error (.query ("Integer " ++ toString i ++ " out of range at index " ++ toString index))

end Cell

end StorageLifecycle
