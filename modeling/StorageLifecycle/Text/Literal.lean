import StorageLifecycle.Text.Joining
import StorageLifecycle.Text.Unseen

/-!
# Texts as literals

A literal is a text between double quotes. The quote and the backslash have a backslash in front,
and so have the short names of five control characters. A character that shows nothing, or that
joins the one before it, is written by its number in hexadecimal digits between braces.
-/

namespace StorageLifecycle.Literal

/-- Does a character lie in one of the ranges? -/
def within (ranges : List (Nat × Nat)) (c : Char) : Bool :=
  ranges.any fun r => r.1 ≤ c.toNat && c.toNat ≤ r.2

/-- A character by its number. -/
def byNumber (c : Char) : List Char :=
  '\\' :: 'u' :: '\x7b' :: Nat.toDigits 16 c.toNat ++ ['\x7d']

/-- A character as it stands in a literal. -/
def escape (c : Char) : List Char :=
  match c with
  | '"' => ['\\', '"']
  | '\\' => ['\\', '\\']
  | '\x00' => ['\\', '0']
  | '\t' => ['\\', 't']
  | '\n' => ['\\', 'n']
  | '\r' => ['\\', 'r']
  | c => if within Unseen.ranges c ∨ within Joining.ranges c then byNumber c else [c]

/-- The literal of a text. -/
def write (s : String) : String := "\"" ++ String.ofList (s.toList.flatMap escape) ++ "\""

end StorageLifecycle.Literal
