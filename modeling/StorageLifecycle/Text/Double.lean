import StorageLifecycle.Text.Decimal
import StorageLifecycle.Text.Word

/-!
# Doubles

Every finite double is a whole multiple of the least positive one, two to the power -1074, so a
double is kept as that multiple. Rounding goes to the nearest double, on a tie to the one with an
even significand; what is too great becomes an infinity, which is kept as the multiple behind the
greatest finite one.
-/

namespace StorageLifecycle

/-- A double, as a multiple of the least positive one. -/
structure Double where
  multiple : Int
deriving DecidableEq, Repr, Inhabited

namespace Double

/-- How many times the least positive double goes into one. -/
def unit : Nat := Word.bound 1074

/-- The multiple that stands for infinity: two to the power 1024. -/
def infinite : Nat := Word.bound 2098

/-- A quotient to the nearest whole number, on a tie to the even one. -/
def nearest (num den : Nat) : Nat :=
  let q := num / den
  let r := num % den
  if 2 * r < den ∨ (2 * r = den ∧ q % 2 = 0) then q else q + 1

/-- The multiple of a double next to a quotient: a significand of 53 bits in front of zeros. -/
def roundQuotient (num den : Nat) : Nat :=
  let shift := (num / den).log2 - 52
  min infinite (nearest num (den * Word.bound shift) * Word.bound shift)

def negateIf (negative : Bool) (x : Double) : Double := if negative then ⟨-x.multiple⟩ else x

/-- The double next to a quotient. -/
def ofQuotient (num den : Nat) : Double := ⟨roundQuotient (num * unit) den⟩

def isInfinite (x : Double) : Bool := x.multiple.natAbs == infinite

/-- A product, rounded once. -/
def mul (x y : Double) : Double :=
  negateIf ((x.multiple < 0) != (y.multiple < 0))
    ⟨roundQuotient (x.multiple.natAbs * y.multiple.natAbs) unit⟩

/-- A quotient, rounded once. -/
def div (x y : Double) : Double :=
  negateIf ((x.multiple < 0) != (y.multiple < 0))
    ⟨roundQuotient (x.multiple.natAbs * unit) y.multiple.natAbs⟩

/-- The double next to digits times a power of ten. -/
def ofDecimal (digits exponent : Int) : Double :=
  let n := digits.natAbs
  let size := exponent + (toString n).length
  negateIf (digits < 0) <|
    if n = 0 ∨ size < -400 then ⟨0⟩
    else if 400 < size then ⟨infinite⟩
    else if 0 ≤ exponent then ofQuotient (n * Decimal.tenTo exponent.toNat) 1
    else ofQuotient n (Decimal.tenTo exponent.natAbs)

/-- The value as a whole number, if it is one. -/
def whole? (x : Double) : Option Int :=
  if x.multiple % unit = 0 then some (x.multiple / unit) else none

/-! ## Text with fifteen digits -/

/-- A quotient that is at least one, as a power of ten times a number from one to ten: the power. -/
def magnitude (num den : Nat) : Nat := (toString (num / den)).length - 1

/-- The power of ten of the first digit of a quotient. -/
def leadingPower (num den : Nat) : Int :=
  if den ≤ num then magnitude num den
  else
    let places := (toString den).length - (toString num).length
    if den ≤ num * Decimal.tenTo places then -(places : Int) else -(places + 1 : Int)

/-- The first fifteen digits of a quotient as a whole number, a half rounded up, and the power of
ten of the first of them. -/
def fifteenDigits (num den : Nat) : Nat × Int :=
  let power := leadingPower num den
  let shift := 14 - power
  let (num, den) :=
    if 0 ≤ shift then (num * Decimal.tenTo shift.toNat, den)
    else (num, den * Decimal.tenTo shift.natAbs)
  let n := (2 * num + den) / (2 * den)
  if n = Decimal.tenTo 15 then (Decimal.tenTo 14, power + 1) else (n, power)

/-- Digits behind a point, without zeros at the end, but one at least. -/
def fraction (ds : List Char) : String :=
  let ds := (ds.reverse.dropWhile (· == '0')).reverse
  "." ++ if ds.isEmpty then "0" else String.ofList ds

/-- Fifteen digits at most. Numbers below a ten-thousandth and from a thousand million million on
are written with a power of ten. -/
def write (x : Double) : String :=
  if x.multiple = 0 then "0.0"
  else
    let (n, power) := fifteenDigits x.multiple.natAbs unit
    let ds := (toString n).toList
    let sign := if x.multiple < 0 then "-" else ""
    if power < -4 ∨ 14 < power then
      sign ++ String.ofList (ds.take 1) ++ fraction (ds.drop 1) ++ "e"
        ++ (if power < 0 then "-" else "+") ++ String.ofList (Decimal.padded 2 power.natAbs)
    else if power < 0 then
      sign ++ "0" ++ fraction (List.replicate (power.natAbs - 1) '0' ++ ds)
    else
      sign ++ String.ofList (ds.take (power.toNat + 1)) ++ fraction (ds.drop (power.toNat + 1))

end Double

end StorageLifecycle
