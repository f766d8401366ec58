import StorageLifecycle.Startup

/-!
# The program

Reads the command line, the configuration file and the environment, and starts up. This layer has
no connection to a cluster, so an observation ends where its source would be opened.
-/

namespace StorageLifecycle

/-- What is found under a path. -/
def readConfigFile (path : String) : IO ConfigFile := do
  try
    return .content (← IO.FS.readBinFile path)
  catch e =>
    match e with
    | .noFileOrDirectory .. => return .missing
    | e => return .unreadable (toString e)

/-- The variables of the configuration that are set. -/
def readEnvironment : IO Environment := do
  let mut env : Environment := []
  for name in Config.variableNames do
    if let some value ← IO.getEnv name then
      env := env ++ [(name, value.toUTF8)]
  return env

/-- A random identifier. -/
def randomUuid : IO Uuid := do
  let bytes ← IO.getRandomBytes 16
  return BitVec.ofNat 128 (bytes.toList.foldl (fun n b => n * 256 + b.toNat) 0)

/-- The error for a source that cannot be opened. -/
def noCluster : ObserverError := .config "kubernetes_client" "no cluster is configured"

/-- Starts up, and reports how far it came. -/
def runProgram (c : CommandLine) : IO UInt32 := do
  let start := c.start (← readConfigFile c.configPath) (← readEnvironment) (← randomUuid) .epoch
  for line in start.lines do
    IO.eprintln line.display
  match start.task with
  | .ok (.checked _) =>
    IO.println "configuration is valid"
    return 0
  | .ok (.observe ..) =>
    IO.eprintln ("Error: " ++ noCluster.message)
    return 1
  | .error reason =>
    IO.eprintln ("Error: " ++ reason)
    return 1

end StorageLifecycle

/-- Reads the arguments and runs the program. -/
def main (args : List String) : IO UInt32 := do
  match StorageLifecycle.CommandLine.read args with
  | .ok c => StorageLifecycle.runProgram c
  | .error .displayHelp =>
    IO.println StorageLifecycle.CommandLine.usage
    return 0
  | .error .displayVersion =>
    IO.println StorageLifecycle.CommandLine.version
    return 0
  | .error e =>
    IO.eprintln ("error: " ++ e.word)
    return 2
