import StorageLifecycle.Text.Double

/-!
# JSON documents

A document is read as far as it goes. Where the text ends too early or is malformed the tree holds
a flaw at that place, and nothing behind it. A consumer that walks the tree in the order of the
text therefore meets its own objections and the flaws in that order too. Some flaws are only met by
a consumer that reads the value: one that skips it looks no closer than it has to.
-/

namespace StorageLifecycle

/-- Why a text stops being a document. -/
inductive Break where
  | endOfInput
  | malformed
deriving DecidableEq, Repr

/-- What is wrong with a place in a text: what someone finds who reads it, and what someone finds
who skips it, if he finds anything. -/
structure Flaw where
  read : Break
  skip : Option Break
deriving DecidableEq, Repr

/-- A flaw that nobody gets past. -/
def Flaw.fatal (b : Break) : Flaw := ⟨b, some b⟩

inductive Json where
  | null
  | bool (b : Bool)
  | integer (i : Int)
  /-- A number with a fraction or an exponent, and minus zero: digits and a power of ten. -/
  | decimal (digits exponent : Int)
  | string (s : String)
  /-- The items up to the end of the array or to the flaw behind them. -/
  | array (items : List Json) (stop : Option Flaw)
  /-- The members up to the end of the object or to the flaw behind them. -/
  | object (members : List (String × Json)) (stop : Option Flaw)
  /-- A string that does not end or that spells no text. -/
  | flawedString (flaw : Flaw)
  /-- Any other value that cannot be read. -/
  | flawed (flaw : Flaw)
  /-- The text ends where a value should begin. -/
  | missing
deriving Repr, Inhabited

namespace Json

/-- An object with the given members. -/
def ofMembers (members : List (String × Json)) : Json := object members none

/-- An array of the given items. -/
def ofItems (items : List Json) : Json := array items none

/-- A value that may be missing, with `null` for a missing one. -/
def ofOption {α : Type} (f : α → Json) : Option α → Json
  | none => null
  | some a => f a

/-- A value at which the document breaks for everyone. -/
def broken (b : Break) : Json := flawed (.fatal b)

/-- The first break in the tree, in the order of the text, that a consumer finds who takes flaws in
the given way. -/
def firstBreak (take : Flaw → Option Break) : Json → Option Break
  | array items stop =>
    (items.attach.findSome? fun ⟨j, _⟩ => j.firstBreak take) <|> stop.bind take
  | object members stop =>
    (members.attach.findSome? fun ⟨(_, j), _⟩ => j.firstBreak take) <|> stop.bind take
  | flawedString flaw | flawed flaw => take flaw
  | missing => some .endOfInput
  | _ => none
termination_by j => sizeOf j
decreasing_by
  all_goals simp_wf
  · rename_i h
    have := List.sizeOf_lt_of_mem h
    omega
  · rename_i h
    have := List.sizeOf_lt_of_mem h
    simp only [Prod.mk.sizeOf_spec] at this
    omega

/-- What someone finds who skips the value. -/
def skipBreak : Json → Option Break := firstBreak Flaw.skip

/-- What someone finds who reads the whole value. -/
def readBreak : Json → Option Break := firstBreak fun flaw => some flaw.read

/-- The double of a number, from its first nineteen or twenty digits. The digits and the power of
ten are rounded on their own before one is multiplied or divided by the other. -/
def double (digits exponent : Int) : Double :=
  let (n, dropped) := Decimal.leading (Word.bound 64) digits.natAbs
  let power := exponent + dropped
  let d := Double.ofDecimal n 0
  let scale := Double.ofDecimal 1 power.natAbs
  Double.negateIf (digits < 0) <|
    if 0 ≤ power then d.mul scale
    else if 308 < power.natAbs then
      (d.div (Double.ofDecimal 1 308)).div (Double.ofDecimal 1 (power.natAbs - 308))
    else d.div scale

end Json

end StorageLifecycle
