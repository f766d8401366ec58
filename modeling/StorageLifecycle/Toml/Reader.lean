import StorageLifecycle.Toml.Quoted
import StorageLifecycle.Toml.Table

/-!
# Reading TOML

A document is a list of lines: headers, and keys with values. Values may nest up to a fixed depth.
The answer is a tree, or none for a text that is no document.
-/

namespace StorageLifecycle.Toml

def skipBlanks (cs : List Char) : List Char := cs.dropWhile fun c => c == ' ' || c == '\t'

/-- A comment at the front, up to the end of its line. -/
def comment? : List Char → Option (List Char)
  | '#' :: rest =>
    let body := rest.takeWhile fun c => c != '\n' && c != '\r'
    if body.any isControl then none else some (rest.drop body.length)
  | cs => some cs

/-- Blanks and a comment, then the end of the line or of the text. -/
def endOfLine (cs : List Char) : Option (List Char) := do
  let cs ← comment? (skipBlanks cs)
  match cs with
  | [] => some []
  | cs => lineBreak? cs

/-- Skips blanks, comments and line breaks. -/
def skipLines : Nat → List Char → Option (List Char)
  | 0, cs => some cs
  | fuel + 1, cs => do
    let cs ← comment? (skipBlanks cs)
    match lineBreak? cs with
    | some rest => skipLines fuel rest
    | none => some cs

def skipSpace (cs : List Char) : Option (List Char) := skipLines cs.length cs

/-! ## Keys -/

def isBare (c : Char) : Bool := c.isAlphanum || c == '_' || c == '-'

/-- One part of a key. -/
def simpleKey (cs : List Char) : Option (String × List Char) :=
  match cs with
  | '"' :: rest => oneLine '"' rest
  | '\x27' :: rest => oneLine '\x27' rest
  | cs =>
    let name := cs.takeWhile isBare
    if name.isEmpty then none else some (String.ofList name, cs.drop name.length)

/-- The parts of a key with points between them, blanks around them allowed. -/
def keyParts : Nat → List Char → Option (List String × List Char)
  | 0, _ => none
  | fuel + 1, cs => do
    let (k, cs) ← simpleKey (skipBlanks cs)
    match skipBlanks cs with
    | '.' :: rest => do
      let (ks, cs) ← keyParts fuel rest
      some (k :: ks, cs)
    | cs => some ([k], cs)

/-- How deep arrays and inline tables may nest, and how many parts a key may have. -/
def maxDepth : Nat := 80

/-- A key: the path to its table, its last part, and what follows. -/
def key (cs : List Char) : Option (List String × String × List Char) := do
  let (ks, rest) ← keyParts (cs.length + 1) cs
  if ks.length ≤ maxDepth then some (ks.dropLast, ← ks.getLast?, rest) else none

/-! ## Values -/

mutual

/-- The value at the front, with so many levels of nesting left. -/
def value (depth : Nat) : Nat → List Char → Option (Node × List Char)
  | 0, _ => none
  | fuel + 1, cs =>
    match cs with
    | '"' :: _ | '\x27' :: _ => (quoted cs).map fun (s, rest) => (.leaf (.string s), rest)
    | '[' :: rest =>
      if depth = 0 then none
      else (arrayItems (depth - 1) fuel rest).map fun (items, rest) => (.array items, rest)
    | '\x7b' :: rest =>
      if depth = 0 then none
      else (inlineEntries (depth - 1) fuel ⟨.inline, []⟩ rest).map fun (t, rest) => (t.toNode, rest)
    | cs =>
      let (body, rest) := run cs
      (scalar body).map fun j => (.leaf j, rest)

/-- The items of an array up to its bracket. -/
def arrayItems (depth : Nat) : Nat → List Char → Option (List Node × List Char)
  | 0, _ => none
  | fuel + 1, cs => do
    match ← skipSpace cs with
    | ']' :: rest => some ([], rest)
    | cs =>
      let (n, cs) ← value depth fuel cs
      match ← skipSpace cs with
      | ',' :: rest => do
        let (ns, rest) ← arrayItems depth fuel rest
        some (n :: ns, rest)
      | ']' :: rest => some ([n], rest)
      | _ => none

/-- The entries of an inline table up to its brace, put into the table so far. -/
def inlineEntries (depth : Nat) : Nat → Table → List Char → Option (Table × List Char)
  | 0, _, _ => none
  | fuel + 1, t, cs => do
    match ← skipSpace cs with
    | '\x7d' :: rest => some (t, rest)
    | cs =>
      let (path, k, cs) ← key cs
      match ← skipSpace cs with
      | '=' :: cs =>
        let (n, cs) ← value depth fuel (← skipSpace cs)
        let t ← t.define path k n
        match ← skipSpace cs with
        | ',' :: rest => inlineEntries depth fuel t rest
        | '\x7d' :: rest => some (t, rest)
        | _ => none
      | _ => none

end

/-! ## Documents -/

/-- A document under construction: its table, and the path of the header in force. -/
structure Draft where
  root : Table
  header : List String

/-- A header in single brackets, behind the first. -/
def tableHeader (d : Draft) (cs : List Char) : Option (Draft × List Char) := do
  let (path, k, cs) ← key cs
  match cs with
  | ']' :: rest => some (⟨← d.root.openTable path k, path ++ [k]⟩, rest)
  | _ => none

/-- A header in double brackets, behind the first two. -/
def itemHeader (d : Draft) (cs : List Char) : Option (Draft × List Char) := do
  let (path, k, cs) ← key cs
  match cs with
  | ']' :: ']' :: rest => some (⟨← d.root.openItem path k, path ++ [k]⟩, rest)
  | _ => none

/-- A key with its value. -/
def assignment (d : Draft) (cs : List Char) : Option (Draft × List Char) := do
  let (path, k, cs) ← key cs
  match cs with
  | '=' :: cs =>
    let cs := skipBlanks cs
    let (n, rest) ← value maxDepth (2 * cs.length + 2) cs
    some (⟨← d.root.within (Table.define path k n) d.header, d.header⟩, rest)
  | _ => none

/-- The lines of a document. -/
def lines : Nat → Draft → List Char → Option Draft
  | 0, _, _ => none
  | fuel + 1, d, cs => do
    match ← skipSpace cs with
    | [] => some d
    | '[' :: '[' :: rest => do
      let (d, rest) ← itemHeader d rest
      lines fuel d (← endOfLine rest)
    | '[' :: rest => do
      let (d, rest) ← tableHeader d rest
      lines fuel d (← endOfLine rest)
    | cs => do
      let (d, rest) ← assignment d cs
      lines fuel d (← endOfLine rest)

/-- Reads a text as a document. A byte order mark in front is skipped. -/
def read (text : String) : Option Json :=
  let cs := match text.toList with
    | '\ufeff' :: rest => rest
    | cs => cs
  (lines (cs.length + 1) ⟨⟨.header, []⟩, []⟩ cs).map fun d => d.root.toNode.toJson

end StorageLifecycle.Toml
