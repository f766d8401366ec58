import StorageLifecycle.Cluster.Object
import StorageLifecycle.Cluster.Refusal
import StorageLifecycle.Text.Utf8

/-!
# The stream of a watch

The body of a watch is a sequence of lines, each of which is an event. It arrives in chunks that
know nothing of lines. A line that ends too early is skipped, any other line that is no event
breaks the stream.
-/

namespace StorageLifecycle

open Json Decoder

/-- Why a stream broke. -/
inductive StreamError where
  /-- A line is a refusal. -/
  | refused (r : Refusal)
  /-- A line is neither an event nor a refusal. -/
  | undecodable
  /-- A line is no text. -/
  | notText
  | service (reason : String)
deriving DecidableEq, Repr

/-- The text of an answer that cannot be decoded. -/
def undecodableAnswer : String := "Error deserializing response:"

/-- The text of a failure below the requests. -/
def serviceFailure (reason : String) : String := "ServiceError: " ++ reason

def StreamError.message : StreamError → String
  | refused r => r.display
  | undecodable => undecodableAnswer
  | notText => "Error reading events stream: Unable to decode input as UTF8"
  | service reason => "Error reading events stream: " ++ serviceFailure reason

/-- What a stream yields. -/
inductive StreamItem where
  | event (e : WatchEvent)
  | failure (e : StreamError)
deriving DecidableEq, Repr

/-! ## Events -/

namespace WatchEvent

/-- The words for the types of events. -/
def words : List String := ["ADDED", "MODIFIED", "DELETED", "BOOKMARK", "ERROR"]

/-- The metadata of a bookmark: the version; annotations may be there too. -/
def bookmarkMetadata : Decoder String :=
  Decoder.record .refuse
    [required "resourceVersion" text fun _ version => version,
     defaulted "annotations" (Schema.mapOf Schema.aText) fun s _ => s]
    ""

/-- Puts the metadata in; it may stand once, and the other members are looked at later. -/
def bookmarkVersion (version : Option String) :
    List (String × Json) → Except DecodeError (Option String)
  | [] => .ok version
  | (k, j) :: rest =>
    if k = "metadata" then
      if version.isSome then .error .mismatch
      else do bookmarkVersion (some (← bookmarkMetadata j)) rest
    else do
      let _ ← captured j
      bookmarkVersion version rest

/-- A text under a key that has to stand once. -/
def onlyText (key : String) (members : List (String × Json)) : Except DecodeError Unit :=
  match members.filter fun m => m.1 == key with
  | [(_, j)] => (text j).map fun _ => ()
  | _ => .error .mismatch

/-- A bookmark says which version of which kind it is for. -/
def bookmarkDecoder : Decoder String
  | .object members stop => do
    let version ← bookmarkVersion none members
    close stop
    onlyText "apiVersion" members
    onlyText "kind" members
    match version with
    | some v => .ok v
    | none => .error .mismatch
  | j => .error (objection j)

/-- What stands under `object`, given the word under `type`. -/
def content (kind : ResourceKind) (word : String) : Decoder WatchEvent := fun j =>
  match word with
  | "ADDED" => (WatchedObject.decoder kind j).map added
  | "MODIFIED" => (WatchedObject.decoder kind j).map modified
  | "DELETED" => (WatchedObject.decoder kind j).map deleted
  | "BOOKMARK" => (bookmarkDecoder j).map bookmark
  | _ => (Refusal.decoder j).map fun r => error r.code

/-- An event under construction. Its object is held back until its type is known. -/
inductive Draft where
  | blank
  | typed (word : String)
  | held (object : Json)
  | whole (e : WatchEvent)

/-- Puts the type of an event in. -/
def Draft.putType (kind : ResourceKind) (j : Json) : Draft → Except DecodeError Draft
  | blank => do return typed (← word words j)
  | held o => do return whole (← content kind (← word words j) o)
  | _ => .error .mismatch

/-- Puts the object of an event in. -/
def Draft.putObject (kind : ResourceKind) (j : Json) : Draft → Except DecodeError Draft
  | blank => do return held (← captured j)
  | typed w => do return whole (← content kind w j)
  | _ => .error .mismatch

/-- Puts a member in; others than the type and the object are skipped. -/
def Draft.put (kind : ResourceKind) (d : Draft) (member : String × Json) :
    Except DecodeError Draft :=
  match member.1 with
  | "type" => d.putType kind member.2
  | "object" => d.putObject kind member.2
  | _ => (skipped member.2).map fun _ => d

/-- An event: an object with a type and an object, or an array of the two. -/
def decoder (kind : ResourceKind) : Decoder WatchEvent
  | .object members stop => do
    let draft ← members.foldlM (fun d m => d.put kind m) Draft.blank
    close stop
    match draft with
    | .whole e => .ok e
    | _ => .error .mismatch
  | .array (t :: o :: more) stop => do
    let w ← oneOf words t
    let e ← content kind w o
    if !more.isEmpty then .error .malformed
    close stop
    return e
  | .array items stop => do
    let _ ← items.mapM (oneOf words)
    close stop
    .error .mismatch
  | j => .error (objection j)

end WatchEvent

/-- What a line yields; nothing if it ends too early. -/
def StreamItem.ofLine? (kind : ResourceKind) (line : String) : Option StreamItem :=
  let document := Json.read line
  match document.decode (WatchEvent.decoder kind) with
  | .ok e => some (event e)
  | .error .endOfInput => none
  | .error _ =>
    match document.decode Refusal.decoder with
    | .ok r => some (failure (.refused r))
    | .error _ => some (failure .undecodable)

/-! ## Chunks and lines -/

/-- What arrives of a body. -/
inductive Part where
  | octets (bs : List UInt8)
  /-- The body breaks. -/
  | broken (reason : String)
  /-- Nothing arrives any more. -/
  | stuck
deriving DecidableEq, Repr

/-- A part of a body, and how many milliseconds it takes from the moment at which it is asked
for. -/
structure Chunk where
  delay : Nat
  part : Part
deriving DecidableEq, Repr

/-- A window of a watch that was opened: its items, each with the milliseconds that it takes from
the moment at which it is asked for, and the time in which the window closes behind the last of
them; none if it stays open. -/
structure Window where
  items : List (Nat × StreamItem)
  closing : Option Nat
deriving DecidableEq, Repr

namespace Window

def newline : UInt8 := 10

def carriageReturn : UInt8 := 13

/-- The complete lines at the front, without their ends, and what is left. -/
def splitLines (line : List UInt8) : List UInt8 → List (List UInt8) × List UInt8
  | [] => ([], line.reverse)
  | b :: bs =>
    if b = newline then
      let (lines, rest) := splitLines [] bs
      (line.reverse :: lines, rest)
    else splitLines (b :: line) bs

/-- A line without the carriage return at its end. -/
def chomp (line : List UInt8) : List UInt8 :=
  if line.getLast? = some carriageReturn then line.dropLast else line

/-- What the octets of a line yield. -/
def item? (kind : ResourceKind) (line : List UInt8) : Option StreamItem :=
  match Utf8.decode (chomp line) with
  | .ok s => StreamItem.ofLine? kind s
  | .error _ => some (.failure .notText)

/-- What a body breaks with when it was cut between its chunks; this is no failure. -/
def cut : String := "unexpected EOF during chunk"

def isCut (reason : String) : Bool := 1 < (reason.splitOn cut).length

/-- The items in front of a window: the first of them takes the time, and if there are none the
window takes it. -/
def prepend (wait : Nat) (items : List StreamItem) (rest : Nat → Window) : Window :=
  match items with
  | [] => rest wait
  | first :: more =>
    let w := rest 0
    { w with items := (wait, first) :: more.map (0, ·) ++ w.items }

/-- The window that chunks make, given the start of a line and the time that has passed since the
last item. -/
def ofChunks (kind : ResourceKind) (line : List UInt8) (wait : Nat) : List Chunk → Window
  | [] =>
    let last := if line.isEmpty ∨ line = [carriageReturn] then [] else (item? kind line).toList
    prepend wait last fun wait => ⟨[], some wait⟩
  | c :: rest =>
    match c.part with
    | .stuck => ⟨[], none⟩
    | .broken reason =>
      let items := if isCut reason then [] else [StreamItem.failure (.service reason)]
      prepend (wait + c.delay) items fun wait => ⟨[], some wait⟩
    | .octets bs =>
      let (lines, line) := splitLines line.reverse bs
      prepend (wait + c.delay) (lines.filterMap (item? kind)) fun wait =>
        ofChunks kind line wait rest

/-- The window that a body makes. -/
def ofBody (kind : ResourceKind) (body : List Chunk) : Window := ofChunks kind [] 0 body

end Window

end StorageLifecycle
