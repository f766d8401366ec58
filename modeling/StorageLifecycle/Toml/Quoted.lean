import StorageLifecycle.Toml.Scalar

/-!
# Strings of TOML

Basic strings have escapes and literal strings have none. Both may run over several lines between
triple quotes; a line break right behind the opening quotes is dropped, and all others stay as they
are written.
-/

namespace StorageLifecycle.Toml

/-- Characters that may not stand in a text as they are. -/
def isControl (c : Char) : Bool := (c.toNat < 0x20 && c != '\t') || c.toNat == 0x7f

/-- A run of hexadecimal digits as a character. -/
def codePoint (width : Nat) (cs : List Char) : Option (Char × List Char) :=
  let ds := cs.take width
  let n := valueOf 16 ds
  if ds.length = width ∧ ds.all (isDigitOf 16) ∧ n.isValidChar then
    some (Char.ofNat n, cs.drop width)
  else none

/-- The character of an escape, behind the backslash. -/
def escape : List Char → Option (Char × List Char)
  | 'b' :: rest => some (Char.ofNat 8, rest)
  | 't' :: rest => some ('\t', rest)
  | 'n' :: rest => some ('\n', rest)
  | 'f' :: rest => some (Char.ofNat 12, rest)
  | 'r' :: rest => some ('\r', rest)
  | 'e' :: rest => some (Char.ofNat 27, rest)
  | '"' :: rest => some ('"', rest)
  | '\\' :: rest => some ('\\', rest)
  | 'x' :: rest => codePoint 2 rest
  | 'u' :: rest => codePoint 4 rest
  | 'U' :: rest => codePoint 8 rest
  | _ => none

/-- A line break at the front. -/
def lineBreak? : List Char → Option (List Char)
  | '\n' :: rest => some rest
  | '\r' :: '\n' :: rest => some rest
  | _ => none

/-- The rest of a basic string of one line. -/
def basicBody : Nat → List Char → List Char → Option (String × List Char)
  | 0, _, _ => none
  | _, [], _ => none
  | fuel + 1, c :: rest, acc =>
    if c = '"' then some (String.ofList acc.reverse, rest)
    else if c = '\\' then (escape rest).bind fun (x, rest) => basicBody fuel rest (x :: acc)
    else if isControl c then none
    else basicBody fuel rest (c :: acc)

/-- The rest of a literal string of one line. -/
def literalBody : List Char → List Char → Option (String × List Char)
  | [], _ => none
  | c :: rest, acc =>
    if c = '\x27' then some (String.ofList acc.reverse, rest)
    else if isControl c then none
    else literalBody rest (c :: acc)

/-- Skips blanks and line breaks. -/
def skipBreaks : List Char → List Char
  | ' ' :: rest => skipBreaks rest
  | '\t' :: rest => skipBreaks rest
  | '\n' :: rest => skipBreaks rest
  | '\r' :: '\n' :: rest => skipBreaks rest
  | cs => cs

/-- Behind a backslash at the end of a line: all blanks and line breaks are skipped. -/
def continuation? (cs : List Char) : Option (List Char) :=
  (lineBreak? (cs.dropWhile fun c => c == ' ' || c == '\t')).map skipBreaks

/-- The rest of a string over several lines, with or without escapes. A run of three to five quotes
ends it; those above three belong to the text. -/
def multilineBody (quote : Char) : Nat → List Char → List Char → Option (String × List Char)
  | 0, _, _ => none
  | _, [], _ => none
  | fuel + 1, c :: rest, acc =>
    if c = quote then
      let quotes := min 5 ((c :: rest).takeWhile (· == quote)).length
      if 3 ≤ quotes then
        some (String.ofList (List.replicate (quotes - 3) quote ++ acc).reverse,
          (c :: rest).drop quotes)
      else multilineBody quote fuel rest (c :: acc)
    else if c = '\\' ∧ quote = '"' then
      match continuation? rest with
      | some rest => multilineBody quote fuel rest acc
      | none => (escape rest).bind fun (x, rest) => multilineBody quote fuel rest (x :: acc)
    else if c = '\r' ∧ rest.head? = some '\n' then multilineBody quote fuel rest (c :: acc)
    else if isControl c ∧ c ≠ '\n' then none
    else multilineBody quote fuel rest (c :: acc)

/-- The string behind triple quotes. -/
def multiline (quote : Char) (cs : List Char) : Option (String × List Char) :=
  multilineBody quote (cs.length + 1) ((lineBreak? cs).getD cs) []

/-- A string of one line, behind its quote. -/
def oneLine (quote : Char) (cs : List Char) : Option (String × List Char) :=
  if quote = '"' then basicBody (cs.length + 1) cs [] else literalBody cs []

/-- A string of any form at the front. -/
def quoted : List Char → Option (String × List Char)
  | '"' :: '"' :: '"' :: rest => multiline '"' rest
  | '\x27' :: '\x27' :: '\x27' :: rest => multiline '\x27' rest
  | '"' :: rest => oneLine '"' rest
  | '\x27' :: rest => oneLine '\x27' rest
  | _ => none

end StorageLifecycle.Toml
