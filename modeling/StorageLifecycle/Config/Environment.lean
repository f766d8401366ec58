import StorageLifecycle.Config.Basic
import StorageLifecycle.Text.Decimal
import StorageLifecycle.Text.Word

/-!
# Overrides from the environment

Each setting has a variable of its own. A text setting takes the value of its variable as it is. A
number or a truth value takes it if it can be read in the type of the setting; otherwise the
setting keeps its value and a warning is given. A variable that holds no valid text is as good as
unset.
-/

namespace StorageLifecycle

/-- Variables and the bytes they hold. -/
abbrev Environment := List (String × ByteArray)

namespace Environment

/-- The text of a variable, if it is set and holds valid UTF-8. -/
def text? (env : Environment) (name : String) : Option String :=
  (env.lookup name).bind String.fromUTF8?

/-- What a typed setting can be read as, and the name of its type. -/
structure Reader (α : Type) where
  type : String
  read : String → Option α

def truth : Reader Bool where
  type := "bool"
  read
    | "true" => some true
    | "false" => some false
    | _ => none

/-- An unsigned number of so many bits. -/
def number (type : String) (bits : Nat) : Reader Nat := ⟨type, Decimal.unsigned? (Word.bound bits)⟩

def unreadable (name value type : String) : LogLine :=
  ⟨.warn, "failed to parse env var, ignoring",
    [("env_key", name), ("expected", type), ("value", value)]⟩

/-- A text setting under its variable. -/
def override (env : Environment) (name : String) (old : String) : String :=
  (env.text? name).getD old

/-- A typed setting under its variable, and the warning if there is one. -/
def overrideRead {α : Type} (env : Environment) (name : String) (r : Reader α) (old : α) :
    α × List LogLine :=
  match env.text? name with
  | none => (old, [])
  | some value => match r.read value with
    | some new => (new, [])
    | none => (old, [unreadable name value r.type])

end Environment

namespace Config

/-- The variables of all settings. -/
def variableNames : List String :=
  ["CERTWATCH_GENERAL_LOG_LEVEL", "CERTWATCH_GENERAL_LOG_FORMAT",
    "CERTWATCH_OBSERVER_WATCH_TIMEOUT_SECS", "CERTWATCH_OBSERVER_COUNT_POLL_INTERVAL_MS",
    "CERTWATCH_OBSERVER_NAMESPACE", "CERTWATCH_OBSERVER_NOTIFICATION_BUFFER",
    "CERTWATCH_STORE_BACKEND", "CERTWATCH_STORE_PATH", "CERTWATCH_METRICS_ENABLED",
    "CERTWATCH_METRICS_LISTEN_ADDR", "CERTWATCH_METRICS_PORT"]

/-- The configuration under an environment, and the warnings in the order of the settings. -/
def underEnvironment (c : Config) (env : Environment) : Config × List LogLine :=
  let (watchTimeoutSecs, w₁) := env.overrideRead "CERTWATCH_OBSERVER_WATCH_TIMEOUT_SECS"
    (Environment.number "u64" 64) c.observer.watchTimeoutSecs
  let (countPollIntervalMs, w₂) := env.overrideRead "CERTWATCH_OBSERVER_COUNT_POLL_INTERVAL_MS"
    (Environment.number "u64" 64) c.observer.countPollIntervalMs
  let (notificationBuffer, w₃) := env.overrideRead "CERTWATCH_OBSERVER_NOTIFICATION_BUFFER"
    (Environment.number "usize" 64) c.observer.notificationBuffer
  let (enabled, w₄) := env.overrideRead "CERTWATCH_METRICS_ENABLED" Environment.truth
    c.metrics.enabled
  let (port, w₅) := env.overrideRead "CERTWATCH_METRICS_PORT" (Environment.number "u16" 16)
    c.metrics.port
  ({ general :=
      { logLevel := env.override "CERTWATCH_GENERAL_LOG_LEVEL" c.general.logLevel
        logFormat := env.override "CERTWATCH_GENERAL_LOG_FORMAT" c.general.logFormat }
     observer :=
      { watchTimeoutSecs, countPollIntervalMs, notificationBuffer
        area := env.override "CERTWATCH_OBSERVER_NAMESPACE" c.observer.area }
     store :=
      { backend := env.override "CERTWATCH_STORE_BACKEND" c.store.backend
        path := env.override "CERTWATCH_STORE_PATH" c.store.path }
     metrics :=
      { enabled, port
        listenAddr := env.override "CERTWATCH_METRICS_LISTEN_ADDR" c.metrics.listenAddr } },
    w₁ ++ w₂ ++ w₃ ++ w₄ ++ w₅)

end Config

end StorageLifecycle
