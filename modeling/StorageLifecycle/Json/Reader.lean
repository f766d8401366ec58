import StorageLifecycle.Json.Basic

/-!
# Reading JSON

The reader takes a list of characters and gives back the value at its front and the characters
behind it, or nothing behind it if nobody gets past the value. Objects and arrays may nest up to a
fixed depth; deeper ones can only be skipped.
-/

namespace StorageLifecycle.Json.Reader

/-- What follows a value; none if it cannot be passed. -/
abbrev Rest := Option (List Char)

abbrev Read (α : Type) := α × Rest

def isSpace (c : Char) : Bool := c == ' ' || c == '\n' || c == '\t' || c == '\r'

def skipSpace (cs : List Char) : List Char := cs.dropWhile isSpace

/-- A value that nobody gets past. -/
def breakOff (b : Break) : Read Json := (.broken b, none)

/-- The letters that have to follow the first one of a literal. -/
def literal (value : Json) : List Char → List Char → Read Json
  | [], cs => (value, some cs)
  | _ :: _, [] => breakOff .endOfInput
  | x :: xs, c :: cs => if x = c then literal value xs cs else breakOff .malformed

/-! ## Numbers -/

def digitsValue (ds : List Char) : Nat := ds.foldl (fun n d => n * 10 + (d.toNat - 48)) 0

/-- What is wrong with a number that the end of the text cuts: someone who skips it only sees that
it is none. -/
def cutNumber : Flaw := ⟨.endOfInput, some .malformed⟩

/-- One digit or more. -/
def digits (cs : List Char) : Except Flaw (List Char × List Char) :=
  match cs with
  | [] => .error cutNumber
  | c :: _ =>
    if c.isDigit then .ok (cs.takeWhile Char.isDigit, cs.dropWhile Char.isDigit)
    else .error (.fatal .malformed)

/-- The digits before the point: no zero in front of another digit. -/
def integerPart (cs : List Char) : Except Flaw (List Char × List Char) :=
  match cs with
  | '0' :: c :: _ => if c.isDigit then .error (.fatal .malformed) else .ok (['0'], cs.drop 1)
  | _ => digits cs

/-- The digits behind a point, if there is a point. -/
def fractionPart (cs : List Char) : Except Flaw (Option (List Char) × List Char) :=
  match cs with
  | '.' :: rest => (digits rest).map fun (ds, rest) => (some ds, rest)
  | _ => .ok (none, cs)

/-- The exponent, if there is one. -/
def exponentPart (cs : List Char) : Except Flaw (Option Int × List Char) :=
  match cs with
  | e :: rest =>
    if e = 'e' ∨ e = 'E' then
      match rest with
      | '-' :: rest => (digits rest).map fun (ds, rest) => (some (-(digitsValue ds : Int)), rest)
      | '+' :: rest => (digits rest).map fun (ds, rest) => (some (digitsValue ds : Int), rest)
      | rest => (digits rest).map fun (ds, rest) => (some (digitsValue ds : Int), rest)
    else .ok (none, cs)
  | [] => .ok (none, cs)

/-- A number without its sign. -/
def unsignedNumber (negative : Bool) (cs : List Char) : Except Flaw (Json × List Char) := do
  let (whole, cs) ← integerPart cs
  let (fraction, cs) ← fractionPart cs
  let (exponent, cs) ← exponentPart cs
  let sign : Int := if negative then -1 else 1
  match fraction, exponent with
  | none, none =>
    let n := digitsValue whole
    .ok (if negative && n == 0 then .decimal 0 0 else .integer (sign * n), cs)
  | _, _ =>
    let ds := fraction.getD []
    .ok (.decimal (sign * digitsValue (whole ++ ds)) (exponent.getD 0 - ds.length), cs)

/-- Is a number beyond the doubles? -/
def tooGreat : Json → Bool
  | .integer i => decide (Word.bound 64 ≤ i.natAbs) && (double i 0).isInfinite
  | .decimal digits exponent => (double digits exponent).isInfinite
  | _ => false

/-- A number. One that is too great for a double can only be skipped. -/
def number (negative : Bool) (cs : List Char) : Read Json :=
  match unsignedNumber negative cs with
  | .ok (j, rest) => (if tooGreat j then .flawed ⟨.malformed, none⟩ else j, some rest)
  | .error flaw => (.flawed flaw, none)

/-! ## Strings -/

/-- The value of a hexadecimal digit. -/
def hexDigit? (c : Char) : Option Nat :=
  let n := c.toNat
  if 48 ≤ n ∧ n ≤ 57 then some (n - 48)
  else if 97 ≤ n ∧ n ≤ 102 then some (n - 87)
  else if 65 ≤ n ∧ n ≤ 70 then some (n - 55)
  else none

/-- The value of four hexadecimal digits. A text with fewer than four octets left is cut short,
whatever they are. -/
def hex4 (cs : List Char) : Except Break (Nat × List Char) :=
  let four := cs.take 4
  if four.foldl (fun n c => n + c.utf8Size) 0 < 4 then .error .endOfInput
  else match four.mapM hexDigit? with
    | some [a, b, c, d] => .ok (((a * 16 + b) * 16 + c) * 16 + d, cs.drop 4)
    | _ => .error .malformed

/-- The character of a one-letter escape. -/
def escape? : Char → Option Char
  | '"' => some '"'
  | '\\' => some '\\'
  | '/' => some '/'
  | 'b' => some (Char.ofNat 8)
  | 'f' => some (Char.ofNat 12)
  | 'n' => some '\n'
  | 'r' => some '\r'
  | 't' => some '\t'
  | _ => none

def isLeading (unit : Nat) : Bool := 0xd800 ≤ unit && unit ≤ 0xdbff

def isTrailing (unit : Nat) : Bool := 0xdc00 ≤ unit && unit ≤ 0xdfff

/-- What is wrong with a string that breaks off: to a reader it is malformed from half a surrogate
pair on, whatever stands behind it. -/
def stringFlaw (whole : Bool) (b : Break) : Flaw := ⟨if whole then b else .malformed, some b⟩

/-- The rest of a string behind its opening quote, given the characters so far in reverse, whether
they spell a text, and a leading surrogate that waits for its other half. -/
def stringBody : Nat → List Char → List Char → Bool → Option Nat →
    Except Flaw (Option String × List Char)
  | 0, _, _, _, _ => .error (.fatal .malformed)
  | _, [], _, whole, _ => .error (stringFlaw whole .endOfInput)
  | fuel + 1, c :: rest, acc, whole, pending =>
    let settled := whole && pending.isNone
    if c = '"' then .ok (if settled then some (String.ofList acc.reverse) else none, rest)
    else if c = '\\' then
      match rest with
      | [] => .error (stringFlaw whole .endOfInput)
      | 'u' :: rest =>
        match hex4 rest with
        | .error b => .error (stringFlaw whole b)
        | .ok (unit, rest) =>
          match pending with
          | some lead =>
            if isTrailing unit then
              let point := 0x10000 + (lead - 0xd800) * 0x400 + (unit - 0xdc00)
              stringBody fuel rest (Char.ofNat point :: acc) whole none
            else stringBody fuel rest acc false none
          | none =>
            if isLeading unit then stringBody fuel rest acc whole (some unit)
            else if isTrailing unit then stringBody fuel rest acc false none
            else stringBody fuel rest (Char.ofNat unit :: acc) whole none
      | e :: rest =>
        match escape? e with
        | some x => stringBody fuel rest (x :: acc) settled none
        | none => .error (.fatal .malformed)
    else if c.toNat < 0x20 then .error (.fatal .malformed)
    else stringBody fuel rest (c :: acc) settled none

/-- A string behind its opening quote; none if it spells no text. -/
def string (cs : List Char) : Except Flaw (Option String × List Char) :=
  stringBody (cs.length + 1) cs [] true none

/-! ## Values -/

/-- How deep objects and arrays may nest. -/
def maxDepth : Nat := 127

/-- An object or array, with so many levels left for it. -/
def nested (depth : Nat) (read : Read Json) : Read Json :=
  if depth = 0 then (.flawed ⟨.malformed, read.1.skipBreak⟩, read.2) else read

/-- A member whose key is half a surrogate pair short of a text: those who read the object stop at
it, those who skip it go on to the members behind it. -/
def flawedMembers (members : List (String × Json) × Option Flaw) :
    List (String × Json) × Option Flaw :=
  ([], some ⟨.malformed, (Json.object members.1 members.2).skipBreak⟩)

mutual

/-- The value at the front, with so many levels left for objects and arrays. -/
def value (depth : Nat) : Nat → List Char → Read Json
  | 0, _ => breakOff .malformed
  | fuel + 1, cs =>
    match skipSpace cs with
    | [] => (.missing, none)
    | 'n' :: rest => literal .null "ull".toList rest
    | 't' :: rest => literal (.bool true) "rue".toList rest
    | 'f' :: rest => literal (.bool false) "alse".toList rest
    | '"' :: rest => match string rest with
      | .ok (some s, rest) => (.string s, some rest)
      | .ok (none, rest) => (.flawedString ⟨.malformed, none⟩, some rest)
      | .error flaw => (.flawedString flaw, none)
    | '-' :: rest => number true rest
    | '[' :: rest =>
      match skipSpace rest with
      | ']' :: rest => nested depth (.array [] none, some rest)
      | [] => nested depth (.array [] (some (.fatal .endOfInput)), none)
      | rest =>
        let ((items, stop), rest) := items (depth - 1) fuel rest
        nested depth (.array items stop, rest)
    | '\x7b' :: rest =>
      match skipSpace rest with
      | '\x7d' :: rest => nested depth (.object [] none, some rest)
      | rest =>
        let ((members, stop), rest) := members (depth - 1) fuel rest
        nested depth (.object members stop, rest)
    | c :: rest => if c.isDigit then number false (c :: rest) else breakOff .malformed

/-- The items of an array from one of them on. -/
def items (depth : Nat) : Nat → List Char → Read (List Json × Option Flaw)
  | 0, _ => (([], some (.fatal .malformed)), none)
  | fuel + 1, cs =>
    match skipSpace cs with
    | ']' :: _ => (([], some (.fatal .malformed)), none)
    | cs =>
      match value depth fuel cs with
      | (j, none) => (([j], none), none)
      | (j, some rest) => match skipSpace rest with
        | ',' :: rest =>
          let ((js, stop), rest) := items depth fuel rest
          ((j :: js, stop), rest)
        | ']' :: rest => (([j], none), some rest)
        | [] => (([j], some (.fatal .endOfInput)), none)
        | _ => (([j], some (.fatal .malformed)), none)

/-- The members of an object from one of them on. -/
def members (depth : Nat) : Nat → List Char → Read (List (String × Json) × Option Flaw)
  | 0, _ => (([], some (.fatal .malformed)), none)
  | fuel + 1, cs =>
    match skipSpace cs with
    | [] => (([], some (.fatal .endOfInput)), none)
    | '"' :: rest =>
      match string rest with
      | .error flaw => (([], some flaw), none)
      | .ok (some k, rest) =>
        let ((j, ms, stop), rest) := member depth fuel rest
        (((k, j) :: ms, stop), rest)
      | .ok (none, rest) =>
        let ((j, ms, stop), rest) := member depth fuel rest
        (flawedMembers (("", j) :: ms, stop), rest)
    | _ => (([], some (.fatal .malformed)), none)

/-- The value of a member behind its key, and the members behind it. -/
def member (depth : Nat) : Nat → List Char →
    Read (Json × List (String × Json) × Option Flaw)
  | 0, _ => ((.broken .malformed, [], none), none)
  | fuel + 1, cs =>
    match skipSpace cs with
    | [] => ((.missing, [], none), none)
    | ':' :: rest =>
      match value depth fuel rest with
      | (j, none) => ((j, [], none), none)
      | (j, some rest) => match skipSpace rest with
        | ',' :: rest =>
          let (ms, rest) := members depth fuel rest
          ((j, ms), rest)
        | '\x7d' :: rest => ((j, [], none), some rest)
        | [] => ((j, [], some (.fatal .endOfInput)), none)
        | _ => ((j, [], some (.fatal .malformed)), none)
    | _ => ((.broken .malformed, [], none), none)

end

end Reader

/-- A text read as a document: the value, and whether anything but space stands behind it. -/
structure Document where
  value : Json
  trailing : Bool

/-- Reads a text as a document. -/
def read (text : String) : Document :=
  let cs := text.toList
  let (value, rest) := Reader.value Reader.maxDepth (3 * cs.length + 3) cs
  ⟨value, !(Reader.skipSpace (rest.getD [])).isEmpty⟩

end StorageLifecycle.Json
