import StorageLifecycle.Config.Basic
import StorageLifecycle.Text.Word

/-!
# Socket addresses

The address and port that the metrics are served on. Version 4 is written with four decimal
numbers, version 6 in brackets with groups of hexadecimal digits, of which one run of zero groups
may be left out; its last two groups may be written as a version 4 address.
-/

namespace StorageLifecycle

structure SocketAddress where
  /-- Four numbers below 256, or eight below 65536. -/
  ip : List Nat
  /-- The zone of a version 6 address; zero for none. -/
  zone : Nat
  port : Nat
deriving DecidableEq, Repr

namespace SocketAddress

def isV6 (a : SocketAddress) : Bool := a.ip.length == 8

/-- Does the address stand for all interfaces? -/
def isUnspecified (a : SocketAddress) : Bool := a.ip.all (· == 0)

/-! ## Reading -/

/-- A reader of the characters at the front: what it reads, and what follows. -/
abbrev Reader (α : Type) := List Char → Option (α × List Char)

/-- The value of a digit in the radix. -/
def digit? (radix : Nat) (c : Char) : Option Nat :=
  let n := c.toNat
  let d := if 48 ≤ n ∧ n ≤ 57 then n - 48
    else if 97 ≤ n ∧ n ≤ 102 then n - 87
    else if 65 ≤ n ∧ n ≤ 70 then n - 55
    else radix
  if d < radix then some d else none

/-- All digits at the front, at least one and at most `most`, with a value below the bound. -/
def number (radix most bound : Nat) (zeroFirst : Bool) : Reader Nat := fun cs =>
  let ds := cs.takeWhile fun c => (digit? radix c).isSome
  let n := (ds.filterMap (digit? radix)).foldl (fun n d => n * radix + d) 0
  if ds.isEmpty || most < ds.length || (!zeroFirst && ds.head? == some '0' && 1 < ds.length)
      || bound ≤ n then none
  else some (n, cs.drop ds.length)

/-- A character that has to be next. -/
def exactly (c : Char) : Reader Unit
  | d :: rest => if d = c then some ((), rest) else none
  | [] => none

/-- Four decimal numbers with points between them. -/
def v4 : Reader (List Nat) := fun cs => do
  let (a, cs) ← number 10 3 256 false cs
  let (_, cs) ← exactly '.' cs
  let (b, cs) ← number 10 3 256 false cs
  let (_, cs) ← exactly '.' cs
  let (c, cs) ← number 10 3 256 false cs
  let (_, cs) ← exactly '.' cs
  let (d, cs) ← number 10 3 256 false cs
  some ([a, b, c, d], cs)

/-- The character between groups, where it is not the first group. -/
def separator (first : Bool) : Reader Unit := fun cs =>
  if first then some ((), cs) else exactly ':' cs

/-- As many groups as there are, up to the limit, and whether a version 4 address ended them. -/
def groups (first : Bool) : Nat → List Char → List Nat × Bool × List Char
  | 0, cs => ([], false, cs)
  | limit + 1, cs =>
    let tail := if limit = 0 then none else (separator first cs).bind fun (_, cs) => v4 cs
    match tail with
    | some ([a, b, c, d], rest) => ([a * 256 + b, c * 256 + d], true, rest)
    | _ => match (separator first cs).bind fun (_, cs) => number 16 4 65536 true cs with
      | none => ([], false, cs)
      | some (g, rest) =>
        let (gs, v4Last, rest) := groups false limit rest
        (g :: gs, v4Last, rest)

/-- Eight groups, a run of zeros among them possibly left out. -/
def v6 : Reader (List Nat) := fun cs =>
  let (head, v4Last, rest) := groups true 8 cs
  if head.length = 8 then some (head, rest)
  else if v4Last then none
  else do
    let (_, rest) ← exactly ':' rest
    let (_, rest) ← exactly ':' rest
    let (tail, _, rest) := groups true (7 - head.length) rest
    some (head ++ List.replicate (8 - head.length - tail.length) 0 ++ tail, rest)

def readPort : Reader Nat := fun cs => do
  let (_, cs) ← exactly ':' cs
  number 10 cs.length 65536 true cs

/-- The zone behind a percent sign; zero if there is none. -/
def zoneId (cs : List Char) : Nat × List Char :=
  match (exactly '%' cs).bind fun (_, cs) => number 10 cs.length (Word.bound 32) true cs with
  | some r => r
  | none => (0, cs)

/-- Reads a whole text. -/
def read (text : String) : Option SocketAddress :=
  let cs := text.toList
  let asV4 := do
    let (ip, cs) ← v4 cs
    let (p, cs) ← readPort cs
    some (SocketAddress.mk ip 0 p, cs)
  let asV6 := do
    let (_, cs) ← exactly '[' cs
    let (ip, cs) ← v6 cs
    let (zone, cs) := zoneId cs
    let (_, cs) ← exactly ']' cs
    let (p, cs) ← readPort cs
    some (SocketAddress.mk ip zone p, cs)
  match asV4 <|> asV6 with
  | some (a, []) => some a
  | _ => none

/-! ## Writing -/

def hex (n : Nat) : String := String.ofList (Nat.toDigits 16 n)

/-- The longest run of zeros, the first of equals: where it starts, and its length. -/
def zeroRun (gs : List Nat) : Nat × Nat :=
  let step (acc : (Nat × Nat) × (Nat × Nat) × Nat) (g : Nat) :=
    let (best, current, i) := acc
    let current := if g = 0 then (if current.2 = 0 then (i, 1) else (current.1, current.2 + 1))
      else (0, 0)
    (if best.2 < current.2 then current else best, current, i + 1)
  (gs.foldl step ((0, 0), (0, 0), 0)).1

def displayV4 (ip : List Nat) : String := String.intercalate "." (ip.map toString)

/-- Groups without leading zeros; the longest run of two or more zero groups is left out, and a
version 4 address in version 6 form shows as such. -/
def displayV6 (ip : List Nat) : String :=
  match ip with
  | [0, 0, 0, 0, 0, 0xffff, a, b] =>
    "::ffff:" ++ displayV4 [a / 256, a % 256, b / 256, b % 256]
  | _ =>
    let join (gs : List Nat) := String.intercalate ":" (gs.map hex)
    let (start, length) := zeroRun ip
    if 1 < length then join (ip.take start) ++ "::" ++ join (ip.drop (start + length))
    else join ip

def display (a : SocketAddress) : String :=
  if a.isV6 then
    "[" ++ displayV6 a.ip ++ (if a.zone = 0 then "" else "%" ++ toString a.zone) ++ "]:"
      ++ toString a.port
  else displayV4 a.ip ++ ":" ++ toString a.port

end SocketAddress

namespace MetricsSection

/-- The address that the metrics are served on, or why there is none. -/
def socket (m : MetricsSection) : Except String SocketAddress :=
  match SocketAddress.read (m.listenAddr ++ ":" ++ toString m.port) with
  | some a => .ok a
  | none => .error "invalid metrics listen address: invalid socket address syntax"

end MetricsSection

end StorageLifecycle
