import StorageLifecycle.CommandLine
import StorageLifecycle.SocketAddress
import StorageLifecycle.Store.Backend

/-!
# Starting up

What happens before the first observation: the configuration is loaded, its log format, the address
of its metrics and its store are looked at in this order, and the first that is wrong ends it. When
only the configuration is to be checked, the check is the end of it.
-/

namespace StorageLifecycle

/-- What there is to do after the start. -/
inductive Task where
  /-- Nothing: the configuration under a path was to be checked, and is valid. -/
  | checked (path : String)
  | observe (settings : ObserverSettings) (store : Backend) (testCase : TestCase)

/-- Log lines in their order, and the task, or why there is none. -/
structure Startup where
  lines : List LogLine
  task : Except String Task

namespace CommandLine

/-- The warning for a file that is not there. -/
def defaultsUsed (c : CommandLine) : LogLine :=
  ⟨.warn, "config file not found, using defaults", [("path", c.configPath)]⟩

/-- The address of the metrics, if they are served. -/
def metricsSocket (m : MetricsSection) : Except String (Option SocketAddress) :=
  if m.enabled then m.socket.map some else .ok none

/-- The task under a configuration. -/
def task (c : CommandLine) (config : Config) (u : Uuid) (now : Instant) : Except String Task :=
  if c.validate then .ok (.checked c.configPath)
  else do
    let _ ← metricsSocket config.metrics
    let store ← (Backend.ofName config.store.backend).mapError (·.message)
    return .observe config.observer store (TestCase.fresh c.testCaseName (c.runNameOr u) now)

/-- The start with a file, an environment, a random identifier and the wall clock. -/
def start (c : CommandLine) (file : ConfigFile) (env : Environment) (u : Uuid) (now : Instant) :
    Startup :=
  match c.load file env with
  | .error e => ⟨[], .error e.message⟩
  | .ok l =>
    if l.config.general.logFormat ∈ Config.logFormats then
      ⟨l.warnings ++ (if l.fromFile then [] else [c.defaultsUsed]), c.task l.config u now⟩
    else ⟨[], .error (unknownLogFormat l.config.general.logFormat)⟩

/-- What is shown for help. -/
def usage : String :=
  String.intercalate "\n"
    ["Usage: certwatch-daemon [OPTIONS]", "", "Options:",
      "  -c, --config <CONFIG>                Path of the configuration",
      "      --log-level <LOG_LEVEL>          Log level: trace, debug, info, warn, error",
      "      --log-format <LOG_FORMAT>        Log format: json, pretty",
      "      --validate                       Check the configuration and exit",
      "      --run-name <RUN_NAME>            Name of the run",
      "      --test-case <TEST_CASE>          Name of the test case",
      "      --duration-secs <DURATION_SECS>  Stop after so many seconds",
      "      --dry-run                        Keep events in memory only",
      "      --print-metrics                  Print the metrics",
      "  -h, --help                           Show this help",
      "  -V, --version                        Show the version"]

def version : String := "certwatch-daemon 0.1.0"

end CommandLine

end StorageLifecycle
