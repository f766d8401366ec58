import StorageLifecycle.Config.File
import StorageLifecycle.Event
import StorageLifecycle.Text.Word

/-!
# The command line

Options take one value, behind a blank or an equals sign; switches take none. Each may be given
once. The value of an option that follows it as an argument of its own is looked at when the next
option, or the end, is reached. What is asked for on the command line goes before the environment,
the environment before the file, and the file before the defaults.
-/

namespace StorageLifecycle

/-- Why a command line was refused. -/
inductive ArgumentError where
  | displayHelp
  | displayVersion
  | unknownArgument
  | invalidValue
  | valueValidation
  | argumentConflict
  | tooManyValues
deriving DecidableEq, Repr

def ArgumentError.word : ArgumentError → String
  | displayHelp => "DisplayHelp"
  | displayVersion => "DisplayVersion"
  | unknownArgument => "UnknownArgument"
  | invalidValue => "InvalidValue"
  | valueValidation => "ValueValidation"
  | argumentConflict => "ArgumentConflict"
  | tooManyValues => "TooManyValues"

/-- What was given on the command line. -/
structure CommandLine where
  config : Option String
  logLevel : Option String
  logFormat : Option String
  runName : Option String
  testCase : Option String
  durationSecs : Option Nat
  validate : Bool
  dryRun : Bool
  printMetrics : Bool
deriving DecidableEq, Repr

namespace CommandLine

def empty : CommandLine := ⟨none, none, none, none, none, none, false, false, false⟩

/-- Where the configuration is looked for. -/
def configPath (c : CommandLine) : String := c.config.getD "/etc/certwatch/certwatch.toml"

/-- The name of the test case. -/
def testCaseName (c : CommandLine) : String := c.testCase.getD "Observation"

/-- The name of the run; one that is not given is made from a random identifier. -/
def runNameOr (c : CommandLine) (u : Uuid) : String := c.runName.getD ("run-" ++ u.suffix)

/-! ## Arguments -/

inductive ValueOption where
  | config
  | logLevel
  | logFormat
  | runName
  | testCase
  | durationSecs
deriving DecidableEq, Repr

inductive Switch where
  | validate
  | dryRun
  | printMetrics
  | help
  | version
deriving DecidableEq, Repr

/-- What a name on the command line stands for. -/
inductive Named where
  | value (o : ValueOption)
  | switch (s : Switch)

def long? : String → Option Named
  | "config" => some (.value .config)
  | "log-level" => some (.value .logLevel)
  | "log-format" => some (.value .logFormat)
  | "run-name" => some (.value .runName)
  | "test-case" => some (.value .testCase)
  | "duration-secs" => some (.value .durationSecs)
  | "validate" => some (.switch .validate)
  | "dry-run" => some (.switch .dryRun)
  | "print-metrics" => some (.switch .printMetrics)
  | "help" => some (.switch .help)
  | "version" => some (.switch .version)
  | _ => none

def short? : Char → Option Named
  | 'c' => some (.value .config)
  | 'h' => some (.switch .help)
  | 'V' => some (.switch .version)
  | _ => none

/-- Puts a value where there is none yet. -/
def once {α : Type} (old : Option α) (set : α → CommandLine) (value : Except ArgumentError α) :
    Except ArgumentError CommandLine :=
  if old.isSome then .error .argumentConflict else value.map set

/-- Gives an option its value. -/
def give (c : CommandLine) (o : ValueOption) (v : String) : Except ArgumentError CommandLine :=
  match o with
  | .config => once c.config (fun x => { c with config := some x })
      (if v = "" then .error .invalidValue else .ok v)
  | .logLevel => once c.logLevel (fun x => { c with logLevel := some x }) (.ok v)
  | .logFormat => once c.logFormat (fun x => { c with logFormat := some x }) (.ok v)
  | .runName => once c.runName (fun x => { c with runName := some x }) (.ok v)
  | .testCase => once c.testCase (fun x => { c with testCase := some x }) (.ok v)
  | .durationSecs => once c.durationSecs (fun x => { c with durationSecs := some x })
      (match Decimal.unsigned? (Word.bound 64) v with
        | some n => .ok n
        | none => .error .valueValidation)

/-- Turns a switch on. -/
def turnOn (c : CommandLine) : Switch → Except ArgumentError CommandLine
  | .validate => if c.validate then .error .argumentConflict else .ok { c with validate := true }
  | .dryRun => if c.dryRun then .error .argumentConflict else .ok { c with dryRun := true }
  | .printMetrics =>
    if c.printMetrics then .error .argumentConflict else .ok { c with printMetrics := true }
  | .help => .error .displayHelp
  | .version => .error .displayVersion

/-- An option whose value has not been looked at yet, or has not come yet. -/
abbrev Pending := Option (ValueOption × Option String)

/-- The command line so far, and the option that waits. -/
structure State where
  given : CommandLine
  pending : Pending

/-- Looks at the value of the option that waits. -/
def State.settle (s : State) : Except ArgumentError State :=
  match s.pending with
  | none => .ok s
  | some (_, none) => .error .invalidValue
  | some (o, some v) => (s.given.give o v).map fun c => ⟨c, none⟩

/-- An option with its value attached. -/
def State.attach (s : State) (o : ValueOption) (v : String) : Except ArgumentError State := do
  let s ← s.settle
  let c ← s.given.give o v
  return ⟨c, none⟩

/-- An option whose value is still to come. -/
def State.expect (s : State) (o : ValueOption) : Except ArgumentError State := do
  let s ← s.settle
  return { s with pending := some (o, none) }

def State.flip (s : State) (w : Switch) : Except ArgumentError State := do
  let s ← s.settle
  let c ← s.given.turnOn w
  return ⟨c, none⟩

/-- An argument behind two dashes: its name, and the value behind an equals sign. -/
def splitLong (cs : List Char) : String × Option String :=
  let name := cs.takeWhile (· != '=')
  (String.ofList name,
    match cs.drop name.length with
    | [] => none
    | _ :: v => some (String.ofList v))

def State.long (s : State) (cs : List Char) : Except ArgumentError State :=
  let (name, v) := splitLong cs
  match long? name, v with
  | none, _ => .error .unknownArgument
  | some (.value o), some v => s.attach o v
  | some (.value o), none => s.expect o
  | some (.switch _), some _ => .error .tooManyValues
  | some (.switch w), none => s.flip w

/-- The letters behind a single dash. A letter that takes a value takes all that follows. -/
def State.shorts (s : State) : List Char → Except ArgumentError State
  | [] => .ok s
  | c :: rest =>
    match short? c with
    | none => .error .unknownArgument
    | some (.switch w) => (s.flip w).bind fun s => s.shorts rest
    | some (.value o) =>
      match rest with
      | [] => s.expect o
      | '=' :: v => s.attach o (String.ofList v)
      | v => s.attach o (String.ofList v)

/-- The arguments from left to right. Nothing may follow two dashes on their own. -/
def State.arguments (s : State) : List String → Except ArgumentError State
  | [] => s.settle
  | a :: rest =>
    match a.toList with
    | ['-', '-'] => if rest.isEmpty then s.settle else .error .unknownArgument
    | '-' :: '-' :: cs => (s.long cs).bind fun s => s.arguments rest
    | '-' :: c :: cs => (s.shorts (c :: cs)).bind fun s => s.arguments rest
    | _ =>
      match s.pending with
      | some (o, none) => State.arguments { s with pending := some (o, some a) } rest
      | _ => .error .unknownArgument

/-- Reads the arguments behind the name of the program. -/
def read (args : List String) : Except ArgumentError CommandLine :=
  (State.arguments ⟨empty, none⟩ args).map (·.given)

/-! ## The configuration -/

/-- The configuration with what the command line asks for. -/
def apply (c : CommandLine) (config : Config) : Config :=
  { config with
    general :=
      { logLevel := c.logLevel.getD config.general.logLevel
        logFormat := c.logFormat.getD config.general.logFormat }
    store :=
      { config.store with backend := if c.dryRun then "memory" else config.store.backend } }

/-- What was loaded: the configuration, whether the file was read, and the warnings. -/
structure Loaded where
  config : Config
  fromFile : Bool
  warnings : List LogLine

/-- The configuration of the file under its path, of the environment and of the command line. A
missing file counts as one without settings. -/
def loadBy (read : DocumentReader) (c : CommandLine) (file : ConfigFile) (env : Environment) :
    Except Failure Loaded := do
  let (base, fromFile) ← match Config.ofFileBy read c.configPath file with
    | .ok config => .ok (config, true)
    | .error (.config (.fileNotFound _)) => .ok (Config.default, false)
    | .error e => .error e
  let (config, warnings) := base.underEnvironment env
  let config := c.apply config
  (config.validate).mapError .config
  return ⟨config, fromFile, warnings⟩

def load (c : CommandLine) (file : ConfigFile) (env : Environment) : Except Failure Loaded :=
  c.loadBy Toml.read file env

end CommandLine

end StorageLifecycle
