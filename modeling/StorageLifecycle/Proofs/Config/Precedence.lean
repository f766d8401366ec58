import StorageLifecycle.CommandLine
import StorageLifecycle.Proofs.Config.Settings

/-!
# Where a setting is taken from

A setting is looked for on the command line, then in the environment, then in the file, and has its default
if none of them says anything about it. Each setting is looked for on its own. The file has to be in order as
a whole before it is asked, and what comes of all settings has to be in order too. This is so with every
reader of documents.
-/

namespace StorageLifecycle

namespace ConfigFile

/-- Does the path lead to something that can be read? -/
def isRead : ConfigFile → Bool
  | .content _ => true
  | _ => false

/-- There is no file, or it holds a document that describes a configuration, which meets the rules on its
own. -/
def Usable (read : DocumentReader) : ConfigFile → Prop
  | .missing => True
  | .unreadable _ => False
  | .content bytes => ∃ text c, String.fromUTF8? bytes = some text ∧ Config.parseBy read text = .ok c ∧
      c.validate = .ok ()

end ConfigFile

namespace Setting

variable (read : DocumentReader)

/-- What the command line says about a setting. -/
def onCommandLine (line : CommandLine) : Setting → Option Value
  | logLevel => line.logLevel.map .text
  | logFormat => line.logFormat.map .text
  | backend => if line.dryRun then some (.text "memory") else none
  | _ => none

/-- What a file says about a setting. -/
def inFile (s : Setting) : ConfigFile → Option Value
  | .content bytes => do
    let text ← String.fromUTF8? bytes
    let tree ← read text
    s.inDocument tree
  | _ => none

/-- The first that says something about a setting decides what it is. -/
def chosen (s : Setting) (line : CommandLine) (file : ConfigFile) (env : Environment) : Value :=
  (s.onCommandLine line <|> s.inEnvironment env <|> s.inFile read file).getD (Config.default.get s)

/-- A setting does not depend on any variable but its own. -/
theorem chosen_of_other (s : Setting) (line : CommandLine) (file : ConfigFile) (env : Environment)
    {name : String} (h : name ≠ s.variableName) (value : ByteArray) :
    s.chosen read line file ((name, value) :: env) = s.chosen read line file env := by
  have hlookup : Environment.text? ((name, value) :: env) s.variableName = env.text? s.variableName := by
    unfold Environment.text?
    rw [List.lookup_cons, beq_eq_false_iff_ne.mpr (Ne.symm h)]
  rw [chosen, chosen, inEnvironment, inEnvironment, hlookup]

theorem get_apply (line : CommandLine) (c : Config) (s : Setting) :
    (line.apply c).get s = (s.onCommandLine line).getD (c.get s) := by
  cases s with
  | logLevel => cases h : line.logLevel <;> simp [onCommandLine, CommandLine.apply, Config.get, h]
  | logFormat => cases h : line.logFormat <;> simp [onCommandLine, CommandLine.apply, Config.get, h]
  | backend => cases h : line.dryRun <;> simp [onCommandLine, CommandLine.apply, Config.get, h]
  | _ => rfl

/-- The settings of a configuration that was parsed are those of its document. -/
theorem get_of_parseBy {read : DocumentReader} {bytes : ByteArray} {text : String} {c : Config}
    (htext : String.fromUTF8? bytes = some text) (h : Config.parseBy read text = .ok c) (s : Setting) :
    c.get s = (s.inFile read (.content bytes)).getD (Config.default.get s) := by
  unfold Config.parseBy at h
  split at h
  · exact nomatch h
  · rename_i tree hread
    split at h
    · rename_i c' hdecode
      cases h
      have hinFile : s.inFile read (.content bytes) = s.inDocument tree := by
        show (String.fromUTF8? bytes).bind (fun text => (read text).bind s.inDocument) = _
        rw [htext, Option.bind_some, hread, Option.bind_some]
      rw [hinFile]
      exact get_of_decoder hdecode s
    · exact nomatch h

end Setting

namespace Config

variable {read : DocumentReader}

theorem parseBy_of_error {text : String} {e : ConfigError} (h : parseBy read text = .error e) :
    ∃ reason, e = .parseFailed reason := by
  unfold parseBy at h
  split at h
  · exact ⟨_, (Except.error.inj h).symm⟩
  · split at h
    · exact nomatch h
    · exact ⟨_, (Except.error.inj h).symm⟩

theorem validate_of_error {c : Config} {e : ConfigError} (h : c.validate = .error e) :
    ∃ field reason, e = .invalidValue field reason := by
  unfold validate at h
  repeat' split at h
  all_goals first | exact ⟨_, _, (Except.error.inj h).symm⟩ | exact nomatch h

/-- A document that describes a configuration only has to meet the rules. -/
theorem ofFileBy_of_parseBy {path : String} {bytes : ByteArray} {text : String} {c : Config}
    (htext : String.fromUTF8? bytes = some text) (h : parseBy read text = .ok c) :
    ofFileBy read path (.content bytes) = (c.validate.mapError .config).map fun _ => c := by
  unfold ofFileBy
  dsimp only
  rw [htext]
  dsimp only
  rw [h]
  show (c.validate.mapError Failure.config).bind _ = _
  cases c.validate <;> rfl

/-- What comes of a file: it is not found, or has a configuration that meets the rules, or something else is
wrong with it. -/
theorem ofFileBy_cases (read : DocumentReader) (path : String) (file : ConfigFile) :
    (file = .missing ∧ ofFileBy read path file = .error (.config (.fileNotFound path))) ∨
      (file.Usable read ∧ file.isRead = true ∧ ∃ c, ofFileBy read path file = .ok c ∧
        ∀ s : Setting, c.get s = (s.inFile read file).getD (Config.default.get s)) ∨
      (¬ file.Usable read ∧ ∃ e, ofFileBy read path file = .error e ∧
        ∀ p, e ≠ .config (.fileNotFound p)) := by
  cases file with
  | missing => exact .inl ⟨rfl, rfl⟩
  | unreadable reason => exact .inr (.inr ⟨id, _, rfl, fun _ h => nomatch h⟩)
  | content bytes =>
      cases htext : String.fromUTF8? bytes with
      | none =>
          refine .inr (.inr ⟨?_, .io "stream did not contain valid UTF-8", ?_, fun _ h => nomatch h⟩)
          · rintro ⟨_, _, hsome, _⟩
            exact nomatch htext.symm.trans hsome
          · unfold ofFileBy
            dsimp only
            rw [htext]
      | some text =>
          cases hparse : parseBy read text with
          | error e =>
              obtain ⟨reason, rfl⟩ := parseBy_of_error hparse
              refine .inr (.inr ⟨?_, .config (.parseFailed reason), ?_, fun _ h => nomatch h⟩)
              · rintro ⟨_, c, hsome, hok, -⟩
                cases htext.symm.trans hsome
                exact nomatch hparse.symm.trans hok
              · unfold ofFileBy
                dsimp only
                rw [htext]
                dsimp only
                rw [hparse]
                rfl
          | ok c =>
              cases hvalidate : c.validate with
              | error e =>
                  obtain ⟨field, reason, rfl⟩ := validate_of_error hvalidate
                  refine .inr (.inr ⟨?_, .config (.invalidValue field reason), ?_, fun _ h => nomatch h⟩)
                  · rintro ⟨_, c', hsome, hok, hvalid⟩
                    cases htext.symm.trans hsome
                    cases hparse.symm.trans hok
                    exact nomatch hvalidate.symm.trans hvalid
                  · rw [ofFileBy_of_parseBy htext hparse, hvalidate]
                    rfl
              | ok u =>
                  refine .inr (.inl ⟨⟨text, c, htext, hparse, hvalidate⟩, rfl, c, ?_, ?_⟩)
                  · rw [ofFileBy_of_parseBy htext hparse, hvalidate]
                    rfl
                  · exact Setting.get_of_parseBy htext hparse

end Config

namespace CommandLine

open Setting

variable {read : DocumentReader} {line : CommandLine} {file : ConfigFile} {env : Environment}

/-- What is loaded on top of a configuration. -/
def loadOn (line : CommandLine) (base : Config) (fromFile : Bool) (env : Environment) :
    Except Failure Loaded :=
  let merged := line.apply (base.underEnvironment env).1
  (merged.validate.mapError .config).map fun _ => ⟨merged, fromFile, (base.underEnvironment env).2⟩

/-- A missing file counts as one without settings. -/
theorem loadBy_eq_loadOn {base : Config} {fromFile : Bool}
    (h : Config.ofFileBy read line.configPath file = .ok base ∧ fromFile = true ∨
      Config.ofFileBy read line.configPath file = .error (.config (.fileNotFound line.configPath)) ∧
        base = Config.default ∧ fromFile = false) :
    line.loadBy read file env = line.loadOn base fromFile env := by
  unfold loadBy loadOn
  rcases h with ⟨hfile, rfl⟩ | ⟨hfile, rfl, rfl⟩
  all_goals
    rw [hfile]
    show ((line.apply (Config.underEnvironment _ env).1).validate.mapError Failure.config).bind (fun _ =>
      Except.ok (Loaded.mk (line.apply (Config.underEnvironment _ env).1) _
        (Config.underEnvironment _ env).2)) = _
    generalize Config.underEnvironment _ env = under
    dsimp only
    cases (line.apply under.1).validate <;> rfl

theorem loadBy_of_unusable (line : CommandLine) (env : Environment) (h : ¬ file.Usable read) :
    ∃ e, line.loadBy read file env = .error e := by
  rcases Config.ofFileBy_cases read line.configPath file with
    ⟨rfl, -⟩ | ⟨husable, -⟩ | ⟨-, e, hfile, hfound⟩
  · exact absurd trivial h
  · exact absurd husable h
  · refine ⟨e, ?_⟩
    unfold loadBy
    rw [hfile]
    dsimp only
    split
    · rename_i heq
      exact nomatch heq
    · rename_i p heq
      exact absurd (Except.error.inj heq) (hfound p)
    · rename_i heq
      cases heq
      rfl

/-- With a usable file all comes down to the rules on the chosen settings. -/
theorem loadBy_of_usable (line : CommandLine) (env : Environment) (h : file.Usable read) :
    ∃ merged : Config, (∀ s, merged.get s = s.chosen read line file env) ∧
      line.loadBy read file env = (merged.validate.mapError .config).map fun _ =>
        ⟨merged, file.isRead, all.filterMap (·.warning? env)⟩ := by
  have hload : ∃ base : Config, (∀ s, base.get s = (s.inFile read file).getD (Config.default.get s)) ∧
      line.loadBy read file env = line.loadOn base file.isRead env := by
    rcases Config.ofFileBy_cases read line.configPath file with
      ⟨rfl, hfile⟩ | ⟨-, hread, c, hfile, hget⟩ | ⟨hbad, -⟩
    · exact ⟨Config.default, fun _ => rfl, loadBy_eq_loadOn (.inr ⟨hfile, rfl, rfl⟩)⟩
    · exact ⟨c, hget, loadBy_eq_loadOn (.inl ⟨hfile, hread⟩)⟩
    · exact absurd h hbad
  obtain ⟨base, hget, hload⟩ := hload
  refine ⟨line.apply (base.underEnvironment env).1, fun s => ?_, ?_⟩
  · rw [get_apply, get_underEnvironment, hget, chosen]
    cases s.onCommandLine line <;> cases s.inEnvironment env <;> rfl
  · rw [hload, loadOn, warnings_underEnvironment]

/-- What is loaded comes from a usable file, has the chosen settings, and has met the rules. -/
theorem loaded_of_loadBy {l : Loaded} (h : line.loadBy read file env = .ok l) :
    file.Usable read ∧ (∀ s : Setting, l.config.get s = s.chosen read line file env) ∧
      l.config.validate = .ok () ∧ l.fromFile = file.isRead ∧
      l.warnings = all.filterMap (·.warning? env) := by
  have husable : file.Usable read := by
    by_contra hbad
    obtain ⟨e, hload⟩ := loadBy_of_unusable line env hbad
    exact nomatch h.symm.trans hload
  obtain ⟨merged, hget, hload⟩ := loadBy_of_usable line env husable
  cases hmerged : merged.validate with
  | error e =>
      rw [h, hmerged] at hload
      exact nomatch hload
  | ok u =>
      rw [h, hmerged] at hload
      cases hload
      exact ⟨husable, hget, hmerged, rfl, rfl⟩

/-- With any reader of documents, `Toml.read` among them, a configuration is loaded exactly if the file is
missing, or is read and in order on its own, and the chosen settings meet the rules together. Each setting is
then what the command line says, or else what its own variable says, if that can be read, or else what the
file says at its own place, or else its default. It is told whether the file was read, and warned about each
variable that holds text which cannot be read. No other variable has a part in a setting, and no two settings
share one. -/
theorem load_precedence (read : DocumentReader) (line : CommandLine) (file : ConfigFile) (env : Environment) :
    (file.Usable read → ∃ merged : Config, ∀ s : Setting, merged.get s = s.chosen read line file env) ∧
    (∀ l, line.loadBy read file env = .ok l ↔
      file.Usable read ∧ (∀ s : Setting, l.config.get s = s.chosen read line file env) ∧
        l.config.validate = .ok () ∧ l.fromFile = file.isRead ∧
        l.warnings = Setting.all.filterMap (·.warning? env)) ∧
    (∀ (s : Setting) (name : String), name ≠ s.variableName → ∀ value,
      s.chosen read line file ((name, value) :: env) = s.chosen read line file env) ∧
    Function.Injective variableName := by
  refine ⟨fun h => ?_, fun l => ⟨loaded_of_loadBy, ?_⟩,
    fun s name h => s.chosen_of_other read line file env h, variableName_injective⟩
  · obtain ⟨merged, hget, -⟩ := loadBy_of_usable line env h
    exact ⟨merged, hget⟩
  · rintro ⟨husable, hchosen, hvalid, hread, hwarnings⟩
    obtain ⟨merged, hget, hload⟩ := loadBy_of_usable line env husable
    -- The chosen settings make up one configuration only.
    have hsame : merged = l.config := Config.ext_get fun s => (hget s).trans (hchosen s).symm
    rw [hload, hsame, hvalid, ← hread, ← hwarnings]
    rfl

def layeredFile : ConfigFile :=
  .content "[observer]\nnamespace = \"file\"\ncount_poll_interval_ms = 500\n[metrics]\nport = 9200\n".toUTF8

def layeredEnvironment : Environment :=
  [("CERTWATCH_OBSERVER_NAMESPACE", "environment".toUTF8), ("CERTWATCH_GENERAL_LOG_LEVEL", "warn".toUTF8),
    ("CERTWATCH_METRICS_PORT", "many".toUTF8)]

def layeredLine : CommandLine := { CommandLine.empty with logLevel := some "debug", dryRun := true }

/-- The log level and the store are those of the command line, and the namespace is that of the environment.
The interval and the port are those of the file, since the variable of the port is no number. All else is as
it is without a file. -/
theorem load_precedence_layers :
    layeredFile.Usable Toml.read ∧ layeredLine.load layeredFile layeredEnvironment =
      .ok ⟨⟨⟨"debug", "json"⟩, ⟨3600, 500, "environment", 256⟩, ⟨"memory", StoreSection.default.path⟩,
        ⟨true, "127.0.0.1", 9200⟩⟩, true,
        [Environment.unreadable "CERTWATCH_METRICS_PORT" "many" "u16"]⟩ := by
  have husable : layeredFile.Usable Toml.read := by
    have hfound : layeredFile ≠ .missing := fun h => nomatch h
    have hfile : (Config.ofFileBy Toml.read "" layeredFile).toOption.isSome = true := by decide +kernel
    rcases Config.ofFileBy_cases Toml.read "" layeredFile with
      ⟨hmissing, -⟩ | ⟨husable, -⟩ | ⟨-, e, herror, -⟩
    · exact absurd hmissing hfound
    · exact husable
    · rw [herror] at hfile
      exact nomatch hfile
  have hchosen : ∀ s ∈ all, Config.get ⟨⟨"debug", "json"⟩, ⟨3600, 500, "environment", 256⟩,
      ⟨"memory", StoreSection.default.path⟩, ⟨true, "127.0.0.1", 9200⟩⟩ s =
      s.chosen Toml.read layeredLine layeredFile layeredEnvironment := by decide +kernel
  exact ⟨husable, ((load_precedence Toml.read layeredLine layeredFile layeredEnvironment).2.1 _).mpr
    ⟨husable, fun s => hchosen s (mem_all s), rfl, rfl, by decide +kernel⟩⟩

end CommandLine

end StorageLifecycle
