import Mathlib.Data.List.Nodup
import StorageLifecycle.Config.File
import StorageLifecycle.Proofs.Config.Decoding

/-!
# Settings

A configuration is eleven settings. Each has a place in documents, under a section and a key, and a variable
in the environment, under the name that section and key spell together. What a setting is in a document
depends on its own place alone, and what it becomes under an environment on its own variable.
-/

namespace StorageLifecycle

open Json Decoder

inductive Setting where
  | logLevel
  | logFormat
  | watchTimeout
  | pollInterval
  | area
  | buffer
  | backend
  | path
  | enabled
  | listenAddr
  | port
deriving DecidableEq, Repr

namespace Setting

/-- What a setting is set to. -/
inductive Value where
  | text (s : String)
  | number (n : Nat)
  | truth (b : Bool)
deriving DecidableEq, Repr

/-- The values that a setting can have: text, numbers of so many bits, or truth values. -/
inductive Form where
  | text
  | number (type : String) (bits : Nat)
  | truth
deriving DecidableEq, Repr

/-- All settings, in the order of their sections and of the fields in them. -/
def all : List Setting :=
  [logLevel, logFormat, watchTimeout, pollInterval, area, buffer, backend, path, enabled, listenAddr, port]

theorem mem_all (s : Setting) : s ∈ all := by cases s <;> decide

/-- The section of a setting. -/
def part : Setting → String
  | logLevel | logFormat => "general"
  | watchTimeout | pollInterval | area | buffer => "observer"
  | backend | path => "store"
  | enabled | listenAddr | port => "metrics"

/-- The key of a setting in its section. -/
def key : Setting → String
  | logLevel => "log_level"
  | logFormat => "log_format"
  | watchTimeout => "watch_timeout_secs"
  | pollInterval => "count_poll_interval_ms"
  | area => "namespace"
  | buffer => "notification_buffer"
  | backend => "backend"
  | path => "path"
  | enabled => "enabled"
  | listenAddr => "listen_addr"
  | port => "port"

def form : Setting → Form
  | watchTimeout | pollInterval => .number "u64" 64
  | buffer => .number "usize" 64
  | enabled => .truth
  | port => .number "u16" 16
  | _ => .text

/-- The variable of a setting. -/
def variableName : Setting → String
  | logLevel => "CERTWATCH_GENERAL_LOG_LEVEL"
  | logFormat => "CERTWATCH_GENERAL_LOG_FORMAT"
  | watchTimeout => "CERTWATCH_OBSERVER_WATCH_TIMEOUT_SECS"
  | pollInterval => "CERTWATCH_OBSERVER_COUNT_POLL_INTERVAL_MS"
  | area => "CERTWATCH_OBSERVER_NAMESPACE"
  | buffer => "CERTWATCH_OBSERVER_NOTIFICATION_BUFFER"
  | backend => "CERTWATCH_STORE_BACKEND"
  | path => "CERTWATCH_STORE_PATH"
  | enabled => "CERTWATCH_METRICS_ENABLED"
  | listenAddr => "CERTWATCH_METRICS_LISTEN_ADDR"
  | port => "CERTWATCH_METRICS_PORT"

/-- Variables are named by one rule. -/
theorem variableName_eq (s : Setting) :
    s.variableName = "CERTWATCH_" ++ s.part.toUpper ++ "_" ++ s.key.toUpper := by
  cases s <;> decide +kernel

/-- Each setting has a variable of its own. -/
theorem variableName_injective : Function.Injective variableName := by
  have hnodup : (all.map variableName).Nodup := by decide
  intro s t h
  exact List.inj_on_of_nodup_map hnodup (mem_all s) (mem_all t) h

end Setting

/-- What a setting is in a configuration. -/
def Config.get (c : Config) : Setting → Setting.Value
  | .logLevel => .text c.general.logLevel
  | .logFormat => .text c.general.logFormat
  | .watchTimeout => .number c.observer.watchTimeoutSecs
  | .pollInterval => .number c.observer.countPollIntervalMs
  | .area => .text c.observer.area
  | .buffer => .number c.observer.notificationBuffer
  | .backend => .text c.store.backend
  | .path => .text c.store.path
  | .enabled => .truth c.metrics.enabled
  | .listenAddr => .text c.metrics.listenAddr
  | .port => .number c.metrics.port

/-- A configuration is its settings. -/
theorem Config.ext_get {c d : Config} (h : ∀ s, c.get s = d.get s) : c = d := by
  obtain ⟨⟨level, format⟩, ⟨timeout, interval, area, buffer⟩, ⟨backend, path⟩, ⟨enabled, addr, port⟩⟩ := c
  obtain ⟨⟨level', format'⟩, ⟨timeout', interval', area', buffer'⟩, ⟨backend', path'⟩,
    ⟨enabled', addr', port'⟩⟩ := d
  cases h .logLevel
  cases h .logFormat
  cases h .watchTimeout
  cases h .pollInterval
  cases h .area
  cases h .buffer
  cases h .backend
  cases h .path
  cases h .enabled
  cases h .listenAddr
  cases h .port
  rfl

namespace Setting

/-! ## In a document -/

/-- What a document has to say about a setting at its place. -/
def Form.decode : Form → Decoder Value
  | text => fun j => (Decoder.text j).map .text
  | number _ bits => fun j => (natural (Word.bound bits) j).map .number
  | truth => fun j => (Decoder.truth j).map .truth

def parts : List String := ["general", "observer", "store", "metrics"]

/-- The keys of a section, in the order of its fields. -/
def keys (part : String) : List String := (all.filter fun s => s.part == part).map key

/-- What a document says about a setting, if it says anything. -/
def inDocument (s : Setting) (tree : Json) : Option Value := do
  let inner ← tree.part? parts s.part
  let j ← inner.part? (keys s.part) s.key
  (s.form.decode j).toOption

variable {tree : Json} {c : Config} {surplus : Surplus}

theorem key_mem_keys (s : Setting) : s.key ∈ keys s.part := by cases s <;> decide

theorem keys_nodup (s : Setting) : (keys s.part).Nodup := by cases s <;> decide

/-- A setting is what the document says about it, or its default, if its section has a part of the document to
itself, and the setting a part of its section. -/
theorem get_of_apart {ρ : Type} {fields : List (RecordField ρ)} {start : ρ} {view : ρ → Value} {s : Setting}
    (houter : Follows (fun j v => (record surplus fields start j).map view = .ok v) (Config.default.get s)
      (tree.part? parts s.part) (c.get s))
    (hnames : fields.map (·.name) = keys s.part) (hstart : view start = Config.default.get s)
    (h : Apart fields s.key view fun j v => s.form.decode j = .ok v) :
    c.get s = (s.inDocument tree).getD (Config.default.get s) := by
  unfold inDocument
  generalize tree.part? parts s.part = part at houter ⊢
  cases part with
  | none => exact houter
  | some inner =>
      change (record surplus fields start inner).map view = .ok (c.get s) at houter
      cases hread : record surplus fields start inner with
      | error e =>
          rw [hread] at houter
          exact nomatch houter
      | ok g =>
          rw [hread] at houter
          have hfollows := follows_of_record view hread hnames (key_mem_keys s) (keys_nodup s) h
          rw [← Except.ok.inj houter]
          show view g = ((inner.part? (keys s.part) s.key).bind fun j => (s.form.decode j).toOption).getD _
          generalize inner.part? (keys s.part) s.key = place at hfollows ⊢
          cases place with
          | none => exact hfollows.trans hstart
          | some j =>
              change s.form.decode j = .ok (view g) at hfollows
              rw [Option.bind_some, hfollows]
              rfl

section

variable (h : Config.decoder surplus tree = .ok c)

include h

theorem follows_general (view : GeneralSection → Value) :
    Follows (fun j v => (GeneralSection.decoder surplus j).map view = .ok v) (view .default)
      (tree.part? parts "general") (view c.general) :=
  follows_of_record (fun c : Config => view c.general) h rfl (by decide) (by decide)
    (.self (fun _ _ => rfl) (.beside (by decide) (fun _ _ => rfl) (.beside (by decide) (fun _ _ => rfl)
      (.beside (by decide) (fun _ _ => rfl) apart_nil))))

theorem follows_observer (view : ObserverSettings → Value) :
    Follows (fun j v => (ObserverSettings.decoder surplus j).map view = .ok v) (view .default)
      (tree.part? parts "observer") (view c.observer) :=
  follows_of_record (fun c : Config => view c.observer) h rfl (by decide) (by decide)
    (.beside (by decide) (fun _ _ => rfl) (.self (fun _ _ => rfl) (.beside (by decide) (fun _ _ => rfl)
      (.beside (by decide) (fun _ _ => rfl) apart_nil))))

theorem follows_store (view : StoreSection → Value) :
    Follows (fun j v => (StoreSection.decoder surplus j).map view = .ok v) (view .default)
      (tree.part? parts "store") (view c.store) :=
  follows_of_record (fun c : Config => view c.store) h rfl (by decide) (by decide)
    (.beside (by decide) (fun _ _ => rfl) (.beside (by decide) (fun _ _ => rfl) (.self (fun _ _ => rfl)
      (.beside (by decide) (fun _ _ => rfl) apart_nil))))

theorem follows_metrics (view : MetricsSection → Value) :
    Follows (fun j v => (MetricsSection.decoder surplus j).map view = .ok v) (view .default)
      (tree.part? parts "metrics") (view c.metrics) :=
  follows_of_record (fun c : Config => view c.metrics) h rfl (by decide) (by decide)
    (.beside (by decide) (fun _ _ => rfl) (.beside (by decide) (fun _ _ => rfl)
      (.beside (by decide) (fun _ _ => rfl) (.self (fun _ _ => rfl) apart_nil))))

/-- A setting of a configuration that was read is what the document says about it, or its default. -/
theorem get_of_decoder (s : Setting) : c.get s = (s.inDocument tree).getD (Config.default.get s) := by
  cases s with
  | logLevel =>
      exact get_of_apart (follows_general h fun g => .text g.logLevel) rfl rfl
        (.self (fun _ _ => rfl) (.beside (by decide) (fun _ _ => rfl) apart_nil))
  | logFormat =>
      exact get_of_apart (follows_general h fun g => .text g.logFormat) rfl rfl
        (.beside (by decide) (fun _ _ => rfl) (.self (fun _ _ => rfl) apart_nil))
  | watchTimeout =>
      exact get_of_apart (follows_observer h fun g => .number g.watchTimeoutSecs) rfl rfl
        (.self (fun _ _ => rfl) (.beside (by decide) (fun _ _ => rfl) (.beside (by decide) (fun _ _ => rfl)
          (.beside (by decide) (fun _ _ => rfl) apart_nil))))
  | pollInterval =>
      exact get_of_apart (follows_observer h fun g => .number g.countPollIntervalMs) rfl rfl
        (.beside (by decide) (fun _ _ => rfl) (.self (fun _ _ => rfl) (.beside (by decide) (fun _ _ => rfl)
          (.beside (by decide) (fun _ _ => rfl) apart_nil))))
  | area =>
      exact get_of_apart (follows_observer h fun g => .text g.area) rfl rfl
        (.beside (by decide) (fun _ _ => rfl) (.beside (by decide) (fun _ _ => rfl) (.self (fun _ _ => rfl)
          (.beside (by decide) (fun _ _ => rfl) apart_nil))))
  | buffer =>
      exact get_of_apart (follows_observer h fun g => .number g.notificationBuffer) rfl rfl
        (.beside (by decide) (fun _ _ => rfl) (.beside (by decide) (fun _ _ => rfl)
          (.beside (by decide) (fun _ _ => rfl) (.self (fun _ _ => rfl) apart_nil))))
  | backend =>
      exact get_of_apart (follows_store h fun g => .text g.backend) rfl rfl
        (.self (fun _ _ => rfl) (.beside (by decide) (fun _ _ => rfl) apart_nil))
  | path =>
      exact get_of_apart (follows_store h fun g => .text g.path) rfl rfl
        (.beside (by decide) (fun _ _ => rfl) (.self (fun _ _ => rfl) apart_nil))
  | enabled =>
      exact get_of_apart (follows_metrics h fun g => .truth g.enabled) rfl rfl
        (.self (fun _ _ => rfl) (.beside (by decide) (fun _ _ => rfl)
          (.beside (by decide) (fun _ _ => rfl) apart_nil)))
  | listenAddr =>
      exact get_of_apart (follows_metrics h fun g => .text g.listenAddr) rfl rfl
        (.beside (by decide) (fun _ _ => rfl) (.self (fun _ _ => rfl)
          (.beside (by decide) (fun _ _ => rfl) apart_nil)))
  | port =>
      exact get_of_apart (follows_metrics h fun g => .number g.port) rfl rfl
        (.beside (by decide) (fun _ _ => rfl) (.beside (by decide) (fun _ _ => rfl)
          (.self (fun _ _ => rfl) apart_nil)))

end

/-! ## In the environment -/

/-- What a text can be read as. -/
def Form.read : Form → String → Option Value
  | text => fun v => some (.text v)
  | number type bits => fun v => ((Environment.number type bits).read v).map .number
  | truth => fun v => (Environment.truth.read v).map .truth

/-- The name under which a form is expected. -/
def Form.typeName : Form → String
  | text => "string"
  | number type _ => type
  | truth => "bool"

/-- What the environment says about a setting, if it says anything that can be read. -/
def inEnvironment (s : Setting) (env : Environment) : Option Value :=
  (env.text? s.variableName).bind s.form.read

/-- The warning about a setting whose variable holds text that cannot be read. -/
def warning? (s : Setting) (env : Environment) : Option LogLine :=
  (env.text? s.variableName).bind fun v =>
    if (s.form.read v).isSome then none
    else some (Environment.unreadable s.variableName v s.form.typeName)

variable {env : Environment} {name : String}

theorem text_override (old : String) :
    Value.text (env.override name old) = ((env.text? name).bind Form.text.read).getD (.text old) := by
  unfold Environment.override
  cases env.text? name <;> rfl

theorem overrideRead_eq {α : Type} (r : Environment.Reader α) (wrap : α → Value) (old : α) :
    wrap (env.overrideRead name r old).1 =
        ((env.text? name).bind fun v => (r.read v).map wrap).getD (wrap old) ∧
      (env.overrideRead name r old).2 = ((env.text? name).bind fun v =>
        if ((r.read v).map wrap).isSome then none
        else some (Environment.unreadable name v r.type)).toList := by
  unfold Environment.overrideRead
  cases env.text? name with
  | none => exact ⟨rfl, rfl⟩
  | some v =>
      cases hread : r.read v with
      | none => simp [hread]
      | some a => simp [hread]

/-- Under an environment a setting is what its own variable says, or what it was. -/
theorem get_underEnvironment (c : Config) (env : Environment) (s : Setting) :
    (c.underEnvironment env).1.get s = (s.inEnvironment env).getD (c.get s) := by
  cases s with
  | watchTimeout => exact (overrideRead_eq (Environment.number "u64" 64) .number _).1
  | pollInterval => exact (overrideRead_eq (Environment.number "u64" 64) .number _).1
  | buffer => exact (overrideRead_eq (Environment.number "usize" 64) .number _).1
  | enabled => exact (overrideRead_eq Environment.truth .truth _).1
  | port => exact (overrideRead_eq (Environment.number "u16" 16) .number _).1
  | _ => exact text_override _

/-- There is a warning for each variable that holds text which cannot be read, and no other. -/
theorem warnings_underEnvironment (c : Config) (env : Environment) :
    (c.underEnvironment env).2 = all.filterMap (·.warning? env) := by
  have htext : ∀ s : Setting, s.form = .text → s.warning? env = none := by
    intro s hs
    unfold warning?
    rw [hs]
    cases env.text? s.variableName <;> rfl
  rw [List.filterMap_eq_flatMap_toList]
  simp only [all, List.flatMap_cons, List.flatMap_nil, List.append_nil]
  rw [htext logLevel rfl, htext logFormat rfl, htext area rfl, htext backend rfl, htext path rfl,
    htext listenAddr rfl]
  unfold Config.underEnvironment
  dsimp only
  rw [(overrideRead_eq (Environment.number "u64" 64) .number _).2,
    (overrideRead_eq (Environment.number "u64" 64) .number _).2,
    (overrideRead_eq (Environment.number "usize" 64) .number _).2,
    (overrideRead_eq Environment.truth .truth _).2,
    (overrideRead_eq (Environment.number "u16" 16) .number _).2]
  simp only [List.append_assoc]
  rfl

end Setting

end StorageLifecycle
