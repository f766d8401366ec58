import StorageLifecycle.Failure
import StorageLifecycle.Telemetry

/-!
# The configuration

Four sections with defaults, and the rules that a configuration has to meet. The rules are checked
in a fixed order, and the first that is broken is reported.
-/

namespace StorageLifecycle

structure GeneralSection where
  logLevel : String
  logFormat : String
deriving DecidableEq, Repr

/-- What the observers need to know. -/
structure ObserverSettings where
  watchTimeoutSecs : Nat
  countPollIntervalMs : Nat
  /-- The namespace to observe; empty for all. -/
  area : String
  notificationBuffer : Nat
deriving DecidableEq, Repr

structure StoreSection where
  backend : String
  path : String
deriving DecidableEq, Repr

structure MetricsSection where
  enabled : Bool
  listenAddr : String
  port : Nat
deriving DecidableEq, Repr

structure Config where
  general : GeneralSection
  observer : ObserverSettings
  store : StoreSection
  metrics : MetricsSection
deriving DecidableEq, Repr

def GeneralSection.default : GeneralSection := ⟨"info", "json"⟩

def ObserverSettings.default : ObserverSettings := ⟨3600, 1000, "", 256⟩

def StoreSection.default : StoreSection := ⟨"sqlite", "/var/lib/certwatch/certwatch.db"⟩

def MetricsSection.default : MetricsSection := ⟨true, "127.0.0.1", 9100⟩

def Config.default : Config := ⟨.default, .default, .default, .default⟩

/-- A watch is kept open for a day at most. -/
def maxWatchTimeoutSecs : Nat := 86400

/-- Counts are sampled at least once a minute. -/
def maxCountPollIntervalMs : Nat := 60000

def maxNotificationBuffer : Nat := 65536

namespace ObserverSettings

/-- The longest time that a watch is kept open, in milliseconds. -/
def watchTimeoutMs (s : ObserverSettings) : Nat := s.watchTimeoutSecs * 1000

/-- The rules that the observers need. -/
def validate (s : ObserverSettings) : Except ObserverError Unit :=
  if s.watchTimeoutSecs = 0 ∨ s.watchTimeoutSecs > maxWatchTimeoutSecs then
    .error (.config "watch_timeout_secs" ("must be 1-" ++ toString maxWatchTimeoutSecs))
  else if s.countPollIntervalMs = 0 ∨ s.countPollIntervalMs > maxCountPollIntervalMs then
    .error (.config "count_poll_interval_ms" ("must be 1-" ++ toString maxCountPollIntervalMs))
  else if s.notificationBuffer = 0 ∨ s.notificationBuffer > maxNotificationBuffer then
    .error (.config "notification_buffer" ("must be 1-" ++ toString maxNotificationBuffer))
  else .ok ()

end ObserverSettings

namespace Config

def logLevels : List String := ["trace", "debug", "info", "warn", "error"]

def logFormats : List String := ["json", "pretty"]

def backends : List String := ["sqlite", "memory"]

def oneOf (values : List String) : String := "must be one of: " ++ String.intercalate ", " values

/-- The rules of a whole configuration. -/
def validate (c : Config) : Except ConfigError Unit :=
  if c.general.logLevel ∉ logLevels then
    .error (.invalidValue "general.log_level" (oneOf logLevels))
  else if c.general.logFormat ∉ logFormats then
    .error (.invalidValue "general.log_format" (oneOf logFormats))
  else if c.observer.watchTimeoutSecs = 0 ∨ c.observer.watchTimeoutSecs > maxWatchTimeoutSecs then
    .error (.invalidValue "observer.watch_timeout_secs"
      ("must be 1-" ++ toString maxWatchTimeoutSecs))
  else if c.observer.countPollIntervalMs = 0 then
    .error (.invalidValue "observer.count_poll_interval_ms" "must be greater than 0")
  else if c.observer.notificationBuffer = 0 then
    .error (.invalidValue "observer.notification_buffer" "must be greater than 0")
  else if c.store.backend ∉ backends then
    .error (.invalidValue "store.backend" (oneOf backends))
  else if c.store.backend = "sqlite" ∧ c.store.path = "" then
    .error (.invalidValue "store.path" "path must not be empty for the sqlite backend")
  else if c.metrics.enabled ∧ c.metrics.port = 0 then
    .error (.invalidValue "metrics.port" "port must not be 0 when metrics are enabled")
  else .ok ()

end Config

/-- The error of a log format that is not known. -/
def unknownLogFormat (format : String) : String :=
  "unknown log format '" ++ format ++ "', expected 'json' or 'pretty'"

end StorageLifecycle
