import StorageLifecycle.Config.Document
import StorageLifecycle.Config.Environment
import StorageLifecycle.Toml.Reader

/-!
# Configuration files

A path leads through a tree of folders to a file, which may be missing, unreadable, or hold bytes.
The bytes have to be text, the text a document that describes a configuration, and the configuration
has to meet the rules. What the text says as a document is up to a reader; the files are read as TOML.
-/

namespace StorageLifecycle

/-- What is found under a path. -/
inductive ConfigFile where
  | missing
  | unreadable (reason : String)
  | content (bytes : ByteArray)

/-- Files and folders. -/
inductive FileTree where
  | file (bytes : ByteArray)
  | folder (entries : List (String × FileTree))

namespace FileTree

/-- Follows the names of a path from a place, given the folders above it. -/
def follow : List FileTree → FileTree → List String → ConfigFile
  | _, .file bytes, [] => .content bytes
  | _, .folder _, [] => .unreadable "Is a directory (os error 21)"
  | _, .file _, _ :: _ => .unreadable "Not a directory (os error 20)"
  | above, .folder entries, name :: rest =>
    if name = "" ∨ name = "." then follow above (.folder entries) rest
    else if name = ".." then
      match above with
      | [] => follow [] (.folder entries) rest
      | parent :: above => follow above parent rest
    else if 255 < name.utf8ByteSize then .unreadable "File name too long (os error 36)"
    else match entries.lookup name with
      | none => .missing
      | some place => follow (.folder entries :: above) place rest

/-- What a path leads to. A path that does not start at the root starts in an empty folder. -/
def find (root : FileTree) (path : String) : ConfigFile :=
  if path.contains '\x00' then .unreadable "file name contained an unexpected NUL byte"
  else if path = "" then .missing
  else if 4096 ≤ path.utf8ByteSize then .unreadable "File name too long (os error 36)"
  else if "/".isPrefixOf path then follow [] root (path.splitOn "/")
  else follow [root] (.folder []) (path.splitOn "/")

end FileTree

/-- What a text says as a document, if it is one. -/
abbrev DocumentReader := String → Option Json

namespace Config

/-- Reads a configuration from the text of a document. -/
def parseBy (read : DocumentReader) (text : String) : Except ConfigError Config :=
  match read text with
  | none => .error (.parseFailed "the text is no document")
  | some tree => match Config.decoder .ignore tree with
    | .ok c => .ok c
    | .error _ => .error (.parseFailed "the document describes no configuration")

/-- The configuration of a file, which has to meet the rules on its own. -/
def ofFileBy (read : DocumentReader) (path : String) : ConfigFile → Except Failure Config
  | .missing => .error (.config (.fileNotFound path))
  | .unreadable reason => .error (.io reason)
  | .content bytes =>
    match String.fromUTF8? bytes with
    | none => .error (.io "stream did not contain valid UTF-8")
    | some text => do
      let c ← (parseBy read text).mapError .config
      (c.validate).mapError .config
      return c

def parse (text : String) : Except ConfigError Config := parseBy Toml.read text

def ofFile (path : String) (file : ConfigFile) : Except Failure Config := ofFileBy Toml.read path file

/-- The configuration of a file under an environment, with the warnings. -/
def load (path : String) (file : ConfigFile) (env : Environment) :
    Except Failure (Config × List LogLine) := do
  let (c, warnings) := (← ofFile path file).underEnvironment env
  (c.validate).mapError .config
  return (c, warnings)

end Config

end StorageLifecycle
