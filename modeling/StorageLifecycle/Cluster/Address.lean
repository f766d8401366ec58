import StorageLifecycle.Text.Percent

/-!
# Addresses of requests

A request has a target: a path, behind a question mark a query, and behind a hash mark whatever it
may be, which is dropped. The parts of the query stand between ampersands. Not every character may
stand in a path or in a query, and a target must not be too long.
-/

namespace StorageLifecycle

/-- What a request is for: a path, and the parts of its query. -/
structure Address where
  path : String
  query : List String
deriving DecidableEq, Repr

/-- Why a target is no address. -/
inductive AddressError where
  | tooLong
  | badCharacter
deriving DecidableEq, Repr

def AddressError.message : AddressError → String
  | tooLong => "uri too long"
  | badCharacter => "invalid uri character"

namespace Address

/-- May a character stand in a path? -/
def isPathChar (c : Char) : Bool := decide (' ' < c) && !"<>`".toList.contains c

/-- May a character stand in a query? -/
def isQueryChar (c : Char) : Bool := decide (' ' < c) && !"<>\"".toList.contains c

/-- How many octets a target may have. -/
def longest : Nat := 65534

/-- The address that a target is. -/
def read (target : String) : Except AddressError Address :=
  let whole := target.toList.takeWhile (· ≠ '#')
  let path := whole.takeWhile (· ≠ '?')
  let query := whole.drop (path.length + 1)
  if longest < target.utf8ByteSize then .error .tooLong
  else if path.all isPathChar && query.all isQueryChar then
    .ok ⟨.ofList path, ((String.ofList query).splitOn "&").filter (· ≠ "")⟩
  else .error .badCharacter

/-- The target for a path and a query of named values. -/
def target (path : String) (query : List (String × String)) : String :=
  path ++ "?" ++ .join (query.map fun (k, v) => "&" ++ k ++ "=" ++ Percent.encode v)

/-- Is the request one for a watch? -/
def isWatch (a : Address) : Bool := a.query.contains "watch=true"

end Address

end StorageLifecycle
