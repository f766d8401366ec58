import StorageLifecycle.Json.Basic
import StorageLifecycle.Time.Calendar

/-!
# Scalars of TOML

Truth values, whole and floating-point numbers, and dates and times. A scalar that is no string is
an unbroken run of characters, except that one blank may stand between a date and a time.
-/

namespace StorageLifecycle.Toml

/-- A scalar reader: the whole run has to be used up. -/
abbrev ScalarReader (α : Type) := List Char → Option α

/-! ## Numbers -/

/-- The value of a hexadecimal digit. -/
def hexValue? (c : Char) : Option Nat :=
  let n := c.toNat
  if 48 ≤ n ∧ n ≤ 57 then some (n - 48)
  else if 97 ≤ n ∧ n ≤ 102 then some (n - 87)
  else if 65 ≤ n ∧ n ≤ 70 then some (n - 55)
  else none

def isDigitOf (radix : Nat) (c : Char) : Bool :=
  match hexValue? c with
  | some d => d < radix
  | none => false

/-- Takes out underscores, each of which has to stand between two digits. -/
def dropUnderscores (radix : Nat) : List Char → Option (List Char)
  | [] => none
  | [c] => if isDigitOf radix c then some [c] else none
  | c :: '_' :: rest =>
    if isDigitOf radix c then (dropUnderscores radix rest).map (c :: ·) else none
  | c :: rest => if isDigitOf radix c then (dropUnderscores radix rest).map (c :: ·) else none

def valueOf (radix : Nat) (ds : List Char) : Nat :=
  ds.foldl (fun n c => n * radix + (hexValue? c).getD 0) 0

/-- Does every underscore stand between two digits? The flag says whether one may come next. -/
def underscoresFit (isDigit : Char → Bool) : Bool → List Char → Bool
  | _, [] => true
  | _, ['_'] => false
  | fits, '_' :: c :: rest => fits && isDigit c && underscoresFit isDigit true rest
  | _, c :: rest => underscoresFit isDigit (isDigit c) rest

/-- The sign of a number and the characters behind it. -/
def splitSign : List Char → Int × List Char
  | '-' :: rest => (-1, rest)
  | '+' :: rest => (1, rest)
  | cs => (1, cs)

/-- A whole number that a document can hold; one beyond that breaks the document where it is
looked at. -/
def wholeNumber (i : Int) : Json :=
  if -(Word.half 128 : Int) ≤ i ∧ i < Word.bound 128 then .integer i else .broken .malformed

/-- The whole number of some digits. What is no number, for want of digits or for letters among
them, breaks the document where it is looked at. -/
def wholeDigits (radix : Nat) (sign : Int) (ds : List Char) : Json :=
  if ds ≠ [] ∧ ds.all (isDigitOf radix) then wholeNumber (sign * valueOf radix ds)
  else .broken .malformed

/-- The digits behind a mark such as `0x`; there may be none. -/
def marked (radix : Nat) : ScalarReader Json
  | [] => some (wholeDigits radix 1 [])
  | ds => (dropUnderscores radix ds).map (wholeDigits radix 1)

/-- No zero in front, unless it is the whole number. -/
def startsPlainly : List Char → Bool
  | [] => false
  | ['0'] => true
  | c :: _ => c != '0'

/-- Whole numbers in tens. An underscore may follow the sign, and behind one letters pass for
digits as long as nobody asks for the number. -/
def tens : ScalarReader Json := fun cs =>
  let (sign, body) := splitSign cs
  let rest := body.dropWhile Char.isDigit
  if startsPlainly body ∧ (rest = [] ∨ rest.head? = some '_') ∧ !rest.any ("eE.".toList.contains ·)
      ∧ underscoresFit (isDigitOf 16) (body.length < cs.length) body then
    some (wholeDigits 10 sign (body.filter (· != '_')))
  else none

def integer : ScalarReader Json
  | '0' :: 'x' :: ds => marked 16 ds
  | '0' :: 'o' :: ds => marked 8 ds
  | '0' :: 'b' :: ds => marked 2 ds
  | cs => tens cs

/-- A number with digits and an exponent, if a double reaches it. -/
def floatNumber (digits exponent : Int) : Json :=
  if (Double.ofDecimal digits exponent).isInfinite then .broken .malformed
  else .decimal digits exponent

/-- Digits at the front, with underscores among them; there has to be one. -/
def digitRun (cs : List Char) : Option (List Char × List Char) :=
  let ds := cs.takeWhile fun c => c.isDigit || c == '_'
  if ds.any Char.isDigit then some (ds, cs.drop ds.length) else none

/-- The exponent behind its letter, up to the end. -/
def exponent : ScalarReader Int
  | [] => some 0
  | c :: cs =>
    if c = 'e' ∨ c = 'E' then do
      let (sign, ds) := splitSign cs
      let (ds, rest) ← digitRun ds
      if rest.isEmpty then some (sign * valueOf 10 (ds.filter Char.isDigit)) else none
    else none

/-- A number with a fraction, an exponent or both, behind its sign. -/
def fractional (sign : Int) (cs : List Char) : Option Json := do
  let (whole, rest) ← digitRun cs
  let ds := whole.filter Char.isDigit
  if whole.head? = some '0' ∧ 1 < ds.length then none
  else match rest with
    | [] => none
    | '.' :: rest => do
      let (fraction, rest) ← digitRun rest
      let fraction := fraction.filter Char.isDigit
      let e ← exponent rest
      some (floatNumber (sign * valueOf 10 (ds ++ fraction)) (e - fraction.length))
    | rest => do
      let e ← exponent rest
      some (floatNumber (sign * valueOf 10 ds) e)

def float : ScalarReader Json := fun cs =>
  let (sign, body) := splitSign cs
  if body = "inf".toList ∨ body = "nan".toList then some (.decimal 0 0)
  else if underscoresFit Char.isDigit (body.length < cs.length) body then fractional sign body
  else none

/-! ## Dates and times -/

/-- A number of exactly so many digits. -/
def fixed (width : Nat) (cs : List Char) : Option (Nat × List Char) :=
  let ds := cs.take width
  if ds.length = width ∧ ds.all Char.isDigit then some (Decimal.value ds, cs.drop width) else none

def mark (c : Char) : List Char → Option (List Char)
  | d :: rest => if c = d then some rest else none
  | [] => none

/-- A date at the front. -/
def date (cs : List Char) : Option (List Char) := do
  let (year, cs) ← fixed 4 cs
  let cs ← mark '-' cs
  let (month, cs) ← fixed 2 cs
  let cs ← mark '-' cs
  let (day, cs) ← fixed 2 cs
  if (Date.mk year month day).valid then some cs else none

/-- Seconds with their fraction, if there are any. -/
def seconds (cs : List Char) : Option (List Char) :=
  match cs with
  | ':' :: rest => do
    let (second, cs) ← fixed 2 rest
    if 60 < second then none
    else match cs with
      | '.' :: rest =>
        if (rest.takeWhile Char.isDigit).isEmpty then none else some (rest.dropWhile Char.isDigit)
      | cs => some cs
  | cs => some cs

/-- A time of day at the front. -/
def time (cs : List Char) : Option (List Char) := do
  let (hour, cs) ← fixed 2 cs
  let cs ← mark ':' cs
  let (minute, cs) ← fixed 2 cs
  if hour < 24 ∧ minute < 60 then seconds cs else none

/-- The offset of a time from UTC, which has to end the run. -/
def offset : ScalarReader Unit
  | [] => some ()
  | ['Z'] | ['z'] => some ()
  | sign :: rest =>
    if sign = '+' ∨ sign = '-' then do
      let (hour, cs) ← fixed 2 rest
      let cs ← mark ':' cs
      let (minute, cs) ← fixed 2 cs
      if hour < 24 ∧ minute < 60 ∧ cs.isEmpty then some () else none
    else none

/-- A date, a time, or both with or without an offset. It counts as an object with a single member
that no record has. -/
def moment : ScalarReader Json := fun cs =>
  let shown := Json.ofMembers [("moment", .string (String.ofList cs))]
  match date cs with
  | some [] => some shown
  | some (c :: rest) =>
    if c = 'T' ∨ c = 't' ∨ c = ' ' then
      ((time rest).bind offset).map fun _ => shown
    else none
  | none => (time cs).bind fun rest => if rest.isEmpty then some shown else none

/-- A whole run as a scalar. -/
def scalar (cs : List Char) : Option Json :=
  if cs = "true".toList then some (.bool true)
  else if cs = "false".toList then some (.bool false)
  else integer cs <|> float cs <|> moment cs

/-- Does a character end a run? -/
def endsRun (c : Char) : Bool := " \t\r\n,]\x7d#=[\x7b".toList.contains c

/-- The run at the front. Behind a date one blank belongs to it if a digit follows. -/
def run (cs : List Char) : List Char × List Char :=
  let first := cs.takeWhile fun c => !endsRun c
  let rest := cs.drop first.length
  match date first, rest with
  | some [], ' ' :: d :: _ =>
    if d.isDigit then
      let more := (rest.drop 1).takeWhile fun c => !endsRun c
      (first ++ [' '] ++ more, rest.drop (1 + more.length))
    else (first, rest)
  | _, _ => (first, rest)

end StorageLifecycle.Toml
