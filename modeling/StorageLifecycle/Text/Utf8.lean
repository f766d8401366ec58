/-!
# UTF-8

A character is a leading octet and up to three further ones, each within the bounds that the
leading octet sets. Reading stops at the first octet that fits no character, and says where that
is and how many octets before it belong to the character that broke off.
-/

namespace StorageLifecycle.Utf8

/-- Why octets are no text: a character breaks off after some octets, or at the end. -/
inductive Flaw where
  | invalid (octets : Nat)
  | incomplete
deriving DecidableEq, Repr

/-- A flaw, and how many octets before it are text. -/
structure Fault where
  index : Nat
  flaw : Flaw
deriving DecidableEq, Repr

def Fault.message (f : Fault) : String :=
  match f.flaw with
  | .invalid n =>
    "invalid utf-8 sequence of " ++ toString n ++ " bytes from index " ++ toString f.index
  | .incomplete => "incomplete utf-8 byte sequence from index " ++ toString f.index

/-- The bounds of an octet that follows. -/
abbrev Bounds := Nat × Nat

/-- Any octet that follows. -/
def further : Bounds := (0x80, 0xbf)

/-- What a leading octet adds to the character, and the bounds of the octets behind it. -/
def lead? (b : Nat) : Option (Nat × List Bounds) :=
  if b < 0x80 then some (b, [])
  else if b < 0xc2 then none
  else if b < 0xe0 then some (b - 0xc0, [further])
  else if b = 0xe0 then some (0, [(0xa0, 0xbf), further])
  else if b = 0xed then some (0xd, [(0x80, 0x9f), further])
  else if b < 0xf0 then some (b - 0xe0, [further, further])
  else if b = 0xf0 then some (0, [(0x90, 0xbf), further, further])
  else if b < 0xf4 then some (b - 0xf0, [further, further, further])
  else if b = 0xf4 then some (4, [(0x80, 0x8f), further, further])
  else none

/-- The octets behind the leading one: the number of the character and what follows it. -/
def tail (value taken : Nat) : List Bounds → List UInt8 → Except Flaw (Nat × List UInt8)
  | [], bs => .ok (value, bs)
  | _ :: _, [] => .error .incomplete
  | (low, high) :: bounds, b :: bs =>
    if low ≤ b.toNat ∧ b.toNat ≤ high then
      tail (value * 64 + (b.toNat - 0x80)) (taken + 1) bounds bs
    else .error (.invalid taken)

/-- The character at the front, and what follows it. -/
def character (b : UInt8) (bs : List UInt8) : Except Flaw (Char × List UInt8) :=
  match lead? b.toNat with
  | none => .error (.invalid 1)
  | some (value, bounds) => (tail value 1 bounds bs).map fun (n, rest) => (Char.ofNat n, rest)

/-- The characters of octets, from an index on; one octet at least is read at a time. -/
def characters : Nat → Nat → List UInt8 → List Char → Except Fault (List Char)
  | 0, _, _, acc => .ok acc.reverse
  | _, _, [], acc => .ok acc.reverse
  | fuel + 1, index, b :: bs, acc =>
    match character b bs with
    | .error flaw => .error ⟨index, flaw⟩
    | .ok (c, rest) => characters fuel (index + 1 + (bs.length - rest.length)) rest (c :: acc)

/-- The text that octets spell. -/
def decode (bs : List UInt8) : Except Fault String :=
  (characters bs.length 0 bs []).map String.ofList

end StorageLifecycle.Utf8
