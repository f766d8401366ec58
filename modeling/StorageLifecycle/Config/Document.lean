import StorageLifecycle.Config.Basic
import StorageLifecycle.Json.Decode
import StorageLifecycle.Text.Word

/-!
# Configurations as documents

The sections of a configuration and their settings under the names they have in a document. A
missing section or setting has its default. The same decoders serve every format that is read as a
tree; they differ in whether an array may have items behind the last field.
-/

namespace StorageLifecycle

open Json Decoder

namespace GeneralSection

def decoder (surplus : Surplus) : Decoder GeneralSection :=
  record surplus
    [defaulted "log_level" text fun s logLevel => { s with logLevel },
     defaulted "log_format" text fun s logFormat => { s with logFormat }]
    .default

def toJson (s : GeneralSection) : Json :=
  .ofMembers [("log_level", .string s.logLevel), ("log_format", .string s.logFormat)]

end GeneralSection

namespace ObserverSettings

def setTimeout (s : ObserverSettings) (n : Nat) : ObserverSettings :=
  { s with watchTimeoutSecs := n }
def setInterval (s : ObserverSettings) (n : Nat) : ObserverSettings :=
  { s with countPollIntervalMs := n }
def setArea (s : ObserverSettings) (a : String) : ObserverSettings := { s with area := a }
def setBuffer (s : ObserverSettings) (n : Nat) : ObserverSettings :=
  { s with notificationBuffer := n }

/-- The settings as a section, in which all have defaults. -/
def decoder (surplus : Surplus) : Decoder ObserverSettings :=
  record surplus
    [defaulted "watch_timeout_secs" (natural (Word.bound 64)) setTimeout,
     defaulted "count_poll_interval_ms" (natural (Word.bound 64)) setInterval,
     defaulted "namespace" text setArea,
     defaulted "notification_buffer" (natural (Word.bound 64)) setBuffer]
    .default

/-- The settings on their own, in which all have to be there. -/
def strictDecoder : Decoder ObserverSettings :=
  record .refuse
    [required "watch_timeout_secs" (natural (Word.bound 64)) setTimeout,
     required "count_poll_interval_ms" (natural (Word.bound 64)) setInterval,
     required "namespace" text setArea,
     required "notification_buffer" (natural (Word.bound 64)) setBuffer]
    .default

def toJson (s : ObserverSettings) : Json :=
  .ofMembers [("watch_timeout_secs", .integer s.watchTimeoutSecs),
    ("count_poll_interval_ms", .integer s.countPollIntervalMs), ("namespace", .string s.area),
    ("notification_buffer", .integer s.notificationBuffer)]

end ObserverSettings

namespace StoreSection

def decoder (surplus : Surplus) : Decoder StoreSection :=
  record surplus
    [defaulted "backend" text fun s backend => { s with backend },
     defaulted "path" text fun s path => { s with path }]
    .default

def toJson (s : StoreSection) : Json :=
  .ofMembers [("backend", .string s.backend), ("path", .string s.path)]

end StoreSection

namespace MetricsSection

def decoder (surplus : Surplus) : Decoder MetricsSection :=
  record surplus
    [defaulted "enabled" truth fun s enabled => { s with enabled },
     defaulted "listen_addr" text fun s listenAddr => { s with listenAddr },
     defaulted "port" (natural (Word.bound 16)) fun s port => { s with port }]
    .default

def toJson (s : MetricsSection) : Json :=
  .ofMembers [("enabled", .bool s.enabled), ("listen_addr", .string s.listenAddr),
    ("port", .integer s.port)]

end MetricsSection

namespace Config

def decoder (surplus : Surplus) : Decoder Config :=
  record surplus
    [defaulted "general" (GeneralSection.decoder surplus) fun c general => { c with general },
     defaulted "observer" (ObserverSettings.decoder surplus) fun c observer => { c with observer },
     defaulted "store" (StoreSection.decoder surplus) fun c store => { c with store },
     defaulted "metrics" (MetricsSection.decoder surplus) fun c metrics => { c with metrics }]
    .default

def toJson (c : Config) : Json :=
  .ofMembers [("general", c.general.toJson), ("observer", c.observer.toJson),
    ("store", c.store.toJson), ("metrics", c.metrics.toJson)]

end Config

end StorageLifecycle
