import StorageLifecycle.Time.Instant
import StorageLifecycle.Time.Calendar
import StorageLifecycle.Text.Decimal

/-!
# RFC 3339 timestamps

Timestamps are written with as many fraction digits as they need (none, three, six or nine) and
read leniently: letters in lower case, blanks between the fields, fields of one digit, a blank
instead of the `T`, `UTC` instead of `Z`, offsets without a colon, and more than nine fraction
digits, of which the further ones are dropped. A second numbered 60 is a leap second and is kept
as written, so a reading is a `Stamp` (a moment and whether it lies in a leap second).
-/

namespace StorageLifecycle.Rfc3339

open Decimal (padded)

/-- A timestamp as it is written: a moment in whole seconds and the nanoseconds above it, of which
a leap second has up to two thousand million. -/
structure Stamp where
  seconds : Int
  nanos : Nat
deriving DecidableEq, Repr

/-- The stamp of a moment. -/
def Stamp.ofInstant (t : Instant) : Stamp := ⟨t.seconds, t.subsecond⟩

/-! ## Writing -/

/-- Four digits for the years 0 to 9999, otherwise a sign and at least four digits. -/
def writeYear (year : Int) : List Char :=
  if 0 ≤ year ∧ year ≤ 9999 then padded 4 year.toNat
  else (if year < 0 then '-' else '+') :: padded 4 year.natAbs

/-- The shortest of no, three, six or nine fraction digits that loses nothing. -/
def writeFraction (nanos : Nat) : List Char :=
  if nanos = 0 then []
  else if nanos % 1000000 = 0 then '.' :: padded 3 (nanos / 1000000)
  else if nanos % 1000 = 0 then '.' :: padded 6 (nanos / 1000)
  else '.' :: padded 9 nanos

/-- A stamp in UTC, closed by the given name of the offset. -/
def Stamp.write (s : Stamp) (zone : String) : String :=
  let days := s.seconds / 86400
  let ofDay := (s.seconds % 86400).toNat
  let date := Date.ofDays days
  let leap := s.nanos ≥ 1000000000
  let second := ofDay % 60 + (if leap then 1 else 0)
  let nanos := if leap then s.nanos - 1000000000 else s.nanos
  String.ofList (writeYear date.year ++ ['-'] ++ padded 2 date.month ++ ['-'] ++ padded 2 date.day
    ++ ['T'] ++ padded 2 (ofDay / 3600) ++ [':'] ++ padded 2 (ofDay / 60 % 60) ++ [':']
    ++ padded 2 second ++ writeFraction nanos) ++ zone

/-- The stored form of a moment, with `Z` for the offset. -/
def write (t : Instant) : String := (Stamp.ofInstant t).write "Z"

/-- The displayed form of a moment, with `+00:00` for the offset. -/
def display (t : Instant) : String := (Stamp.ofInstant t).write "+00:00"

/-! ## Reading -/

/-- The Unicode property White_Space. -/
def isBlank (c : Char) : Bool :=
  let n := c.toNat
  (9 ≤ n && n ≤ 13) || n == 0x20 || n == 0x85 || n == 0xa0 || n == 0x1680
    || (0x2000 ≤ n && n ≤ 0x200a) || n == 0x2028 || n == 0x2029
    || n == 0x202f || n == 0x205f || n == 0x3000

def skipBlanks (cs : List Char) : List Char := cs.dropWhile isBlank

/-- One digit or more, at most `most` of them, and what follows. -/
def readNumber (most : Nat) (cs : List Char) : Option (Nat × List Char) :=
  let ds := (cs.take most).takeWhile Char.isDigit
  if ds.isEmpty then none else some (Decimal.value ds, cs.drop ds.length)

/-- A character that has to stand here, blanks before it allowed. -/
def expect (c : Char) (cs : List Char) : Option (List Char) :=
  match skipBlanks cs with
  | d :: rest => if d = c then some rest else none
  | [] => none

/-- A field of one or two digits within its bounds, blanks before it allowed. -/
def readField (low high : Nat) (cs : List Char) : Option (Nat × List Char) := do
  let (n, rest) ← readNumber 2 (skipBlanks cs)
  if low ≤ n ∧ n ≤ high then some (n, rest) else none

/-- The years that a timestamp may have. -/
def yearInRange (year : Int) : Bool := -262143 ≤ year && year ≤ 262142

/-- A year: with a sign any number of digits, without one at most four. -/
def readYear (cs : List Char) : Option (Int × List Char) :=
  match skipBlanks cs with
  | '-' :: rest => (readNumber rest.length rest).map fun (n, r) => (-(n : Int), r)
  | '+' :: rest => (readNumber rest.length rest).map fun (n, r) => ((n : Int), r)
  | cs => (readNumber 4 cs).map fun (n, r) => ((n : Int), r)

/-- A fraction, if a point is next: nine digits count, further ones are dropped. -/
def readFraction : List Char → Option (Nat × List Char)
  | '.' :: rest => do
    let (n, after) ← readNumber 9 rest
    let digits := rest.length - after.length
    some (n * Decimal.tenTo (9 - digits), after.dropWhile Char.isDigit)
  | cs => some (0, cs)

/-- The seconds of an offset from UTC: `Z`, `UTC`, or a sign, two digits of hours and two of
minutes. -/
def readOffset (cs : List Char) : Option (Int × List Char) :=
  match cs with
  | 'Z' :: rest | 'z' :: rest => some (0, rest)
  | sign :: rest =>
    if (cs.take 3).map Char.toUpper = ['U', 'T', 'C'] then some (0, cs.drop 3)
    else do
      let negative ← if sign = '+' then some false
        else if sign = '-' ∨ sign = '\u2212' then some true else none
      let (hours, afterHours) ← twoDigits rest
      let (minutes, after) ← twoDigits (afterHours.dropWhile fun c => c == ':' || isBlank c)
      if minutes ≤ 59 ∧ hours < 24 then
        let offset : Int := hours * 3600 + minutes * 60
        some (if negative then -offset else offset, after)
      else none
  | [] => none
where
  twoDigits : List Char → Option (Nat × List Char)
    | a :: b :: rest => if a.isDigit && b.isDigit then some (Decimal.value [a, b], rest) else none
    | _ => none

/-- Reads a whole text as one timestamp; blanks may stand around it. -/
def readStamp (text : String) : Option Stamp := do
  let (year, cs) ← readYear text.toList
  let cs ← expect '-' cs
  let (month, cs) ← readField 1 12 cs
  let cs ← expect '-' cs
  let (day, cs) ← readField 1 31 cs
  let cs ← match cs with
    | 'T' :: rest | 't' :: rest | ' ' :: rest => some rest
    | _ => none
  let (hour, cs) ← readField 0 23 cs
  let cs ← expect ':' cs
  let (minute, cs) ← readField 0 59 cs
  let cs ← expect ':' cs
  let (second, cs) ← readField 0 60 cs
  let (nanos, cs) ← readFraction cs
  let (offset, cs) ← readOffset (skipBlanks cs)
  let date : Date := ⟨year, month, day⟩
  if (skipBlanks cs).isEmpty ∧ date.valid ∧ yearInRange year then
    let leap := second = 60
    let ofDay := hour * 3600 + minute * 60 + (if leap then 59 else second)
    let seconds : Int := date.toDays * 86400 + ofDay - offset
    if yearInRange (Date.ofDays (seconds / 86400)).year then
      some ⟨seconds, if leap then nanos + 1000000000 else nanos⟩
    else none
  else none

end StorageLifecycle.Rfc3339
