/-!
# Failures

Each part of the library has its own kind of error; `Failure` joins them. The text of an error is
a function of its cause, and the conversions into `Failure` say which kind an observer's or a
collector's error becomes.
-/

namespace StorageLifecycle

inductive ConfigError where
  | fileNotFound (path : String)
  | parseFailed (reason : String)
  | invalidValue (field reason : String)
deriving DecidableEq, Repr

def ConfigError.message : ConfigError → String
  | fileNotFound path => "config file not found: " ++ path
  | parseFailed reason => "failed to parse config: " ++ reason
  | invalidValue field reason => "invalid config value for '" ++ field ++ "': " ++ reason

inductive StoreError where
  | connection (reason : String)
  | query (reason : String)
  | duplicate (key : String)
  | notFound (what : String)
deriving DecidableEq, Repr

def StoreError.message : StoreError → String
  | connection reason => "connection failed: " ++ reason
  | query reason => "query failed: " ++ reason
  | duplicate key => "duplicate key: " ++ key
  | notFound what => "not found: " ++ what

inductive ObservationError where
  | watchOpen (kind reason : String)
  | list (kind reason : String)
  | lifecycle (reason : String)
deriving DecidableEq, Repr

def watchOpenMessage (kind reason : String) : String :=
  "failed to open watch for " ++ kind ++ ": " ++ reason

def listMessage (kind reason : String) : String := "failed to list " ++ kind ++ ": " ++ reason

def lifecycleMessage (reason : String) : String := "runner lifecycle error: " ++ reason

def ObservationError.message : ObservationError → String
  | watchOpen kind reason => watchOpenMessage kind reason
  | list kind reason => listMessage kind reason
  | lifecycle reason => lifecycleMessage reason

inductive MetricsError where
  | runNotFound (what : String)
  | storeRead (reason : String)
deriving DecidableEq, Repr

def MetricsError.message : MetricsError → String
  | runNotFound what => "run not found: " ++ what
  | storeRead reason => "failed to read store: " ++ reason

/-- Any error of the library. -/
inductive Failure where
  | config (e : ConfigError)
  | store (e : StoreError)
  | observation (e : ObservationError)
  | metrics (e : MetricsError)
  | io (reason : String)
deriving DecidableEq, Repr

def Failure.message : Failure → String
  | config e => "config error: " ++ e.message
  | store e => "store error: " ++ e.message
  | observation e => "observation error: " ++ e.message
  | metrics e => "metrics error: " ++ e.message
  | io reason => "io error: " ++ reason

/-- What can go wrong in an observer. -/
inductive ObserverError where
  | watchOpen (kind reason : String)
  | watchStream (reason : String)
  | list (kind reason : String)
  | config (field reason : String)
  | lifecycle (reason : String)
  | store (e : StoreError)
deriving DecidableEq, Repr

namespace ObserverError

def message : ObserverError → String
  | watchOpen kind reason => watchOpenMessage kind reason
  | watchStream reason => "watch stream error: " ++ reason
  | list kind reason => listMessage kind reason
  | config field reason => "config error: " ++ field ++ ": " ++ reason
  | lifecycle reason => lifecycleMessage reason
  | store e => "store error: " ++ e.message

/-- A broken stream and a lifecycle error keep their whole text as the reason. -/
def toFailure : ObserverError → Failure
  | watchOpen kind reason => .observation (.watchOpen kind reason)
  | list kind reason => .observation (.list kind reason)
  | config field reason => .config (.invalidValue field reason)
  | store e => .store e
  | watchStream reason => .observation (.lifecycle (watchStream reason).message)
  | lifecycle reason => .observation (.lifecycle (lifecycle reason).message)

end ObserverError

/-- What can go wrong when metrics are collected. -/
inductive CollectorError where
  | runNotFound (what : String)
  | store (e : StoreError)
deriving DecidableEq, Repr

namespace CollectorError

def message : CollectorError → String
  | runNotFound what => "run not found: " ++ what
  | store e => "store error: " ++ e.message

def toFailure : CollectorError → Failure
  | runNotFound what => .metrics (.runNotFound what)
  | store e => .store e

end CollectorError

end StorageLifecycle
