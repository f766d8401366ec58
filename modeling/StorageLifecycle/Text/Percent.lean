/-!
# Values in queries

Letters, digits and four marks stand for themselves, a blank is a plus, and every other octet is
written as two hexadecimal digits behind a percent sign.
-/

namespace StorageLifecycle.Percent

/-- Does an octet stand for itself? -/
def isPlain (c : Char) : Bool := c.isAlphanum || ['*', '-', '.', '_'].contains c

/-- An octet as it is written. -/
def octet (b : UInt8) : List Char :=
  let c := Char.ofNat b.toNat
  if isPlain c then [c]
  else if c = ' ' then ['+']
  else '%' :: ((Nat.toDigits 16 (256 + b.toNat)).drop 1).map Char.toUpper

def encode (s : String) : String := String.ofList (s.toUTF8.toList.flatMap octet)

end StorageLifecycle.Percent
