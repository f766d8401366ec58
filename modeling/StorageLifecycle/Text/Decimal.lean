/-!
# Decimal numbers in text

Digits are the ten ASCII digits.
-/

namespace StorageLifecycle.Decimal

/-- The value of a run of decimal digits. -/
def value (ds : List Char) : Nat := ds.foldl (fun n d => n * 10 + (d.toNat - '0'.toNat)) 0

/-- The power of ten with so many zeros. -/
def tenTo (n : Nat) : Nat := Nat.pow 10 n

/-- The value of a text that consists of digits, of at least one. -/
def natural? (ds : List Char) : Option Nat :=
  if ds.isEmpty || !ds.all Char.isDigit then none else some (value ds)

/-- A number without a sign or with a plus, below the bound. -/
def unsigned? (bound : Nat) (s : String) : Option Nat :=
  let n := match s.toList with
    | '+' :: ds => natural? ds
    | ds => natural? ds
  n.filter (· < bound)

/-- A whole number, with or without a sign. -/
def whole? (s : String) : Option Int :=
  match s.toList with
  | '-' :: ds => (natural? ds).map fun n => -(n : Int)
  | '+' :: ds => (natural? ds).map fun n => (n : Int)
  | ds => (natural? ds).map fun n => (n : Int)

/-- The value of digits of which there may be none. -/
def digits? (ds : List Char) : Option Nat := if ds.all Char.isDigit then some (value ds) else none

/-- Digits with a point somewhere, or without one: their value without the point, and how many
stand behind it. One digit at least has to be there. -/
def pointed? (cs : List Char) : Option (Nat × Nat) :=
  let before := cs.takeWhile (· != '.')
  let behind := (cs.drop before.length).drop 1
  if before.isEmpty ∧ behind.isEmpty then none
  else (digits? (before ++ behind)).map (·, behind.length)

/-- Blanks that may stand around a number. -/
def isBlank (c : Char) : Bool := c == ' ' || (9 ≤ c.toNat && c.toNat ≤ 13)

/-- A number with a point or a power of ten, or without them, as digits and a power of ten. -/
def scientific? (s : String) : Option (Int × Int) := do
  let cs := ((s.toList.dropWhile isBlank).reverse.dropWhile isBlank).reverse
  let (negative, cs) := match cs with
    | '-' :: rest => (true, rest)
    | '+' :: rest => (false, rest)
    | cs => (false, cs)
  let mantissa := cs.takeWhile fun c => c != 'e' && c != 'E'
  let exponent ← match cs.drop mantissa.length with
    | [] => some 0
    | _ :: rest => whole? (String.ofList rest)
  let (n, places) ← pointed? mantissa
  some (if negative then -(n : Int) else n, exponent - places)

/-- Drops digits at the end until a number lies below a bound: what is left of it, and how many
digits were dropped. -/
def leading (bound n : Nat) : Nat × Nat :=
  if n < bound ∨ n < 10 then (n, 0)
  else
    let (m, dropped) := leading bound (n / 10)
    (m, dropped + 1)

/-- Decimal digits, with zeros in front up to the width. -/
def padded (width n : Nat) : List Char :=
  let digits := (toString n).toList
  List.replicate (width - digits.length) '0' ++ digits

end StorageLifecycle.Decimal
