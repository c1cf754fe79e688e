/-
Workspace.ServerSettings — what an editor can set about the server.

The settings form a tree of records, and every one of them has a default.
Most fields go by two names: the one that editors use, and a plain one
(`Label`). Both are read, the editor's name first, and either can be asked
for when the settings are written.

`Value.leaves` lays a tree out flat, under the dotted names by which single
settings are asked for (`setting?`).
-/
import Workspace.Lenient
import Workspace.Resolution

namespace Workspace

/-! ## The records -/

inductive TraceLevel where
  | off
  | messages
  | verbose
  deriving DecidableEq, Repr

inductive LogLevel where
  | info
  | debug
  deriving DecidableEq, Repr

structure CompletionSettings where
  autoImport : Bool := false
  deriving DecidableEq, Repr

structure ValidationSettings where
  script : Bool := true
  deriving DecidableEq, Repr

structure LanguageFeatureSettings where
  codeActions : Bool := true
  updateImportOnFileMove : Bool := true
  deriving DecidableEq, Repr

structure TraceSettings where
  server : TraceLevel := .off
  deriving DecidableEq, Repr

structure DevSettings where
  lspPath : Text := []
  lspPort : Int := -1
  logLevel : LogLevel := .info
  deriving DecidableEq, Repr

/-- The settings of the server itself. -/
structure CoreSettings where
  ignoreProjectWarning : Bool := false
  useWorkspaceDependencies : Bool := false
  completion : CompletionSettings := {}
  validation : ValidationSettings := {}
  languageFeatures : LanguageFeatureSettings := {}
  trace : TraceSettings := {}
  dev : DevSettings := {}
  deriving DecidableEq, Repr

structure TypeScriptSettings where
  tsdk : Option Text := none
  deriving DecidableEq, Repr

structure ServerSettings where
  core : CoreSettings := {}
  typescript : TypeScriptSettings := {}
  deriving DecidableEq, Repr

/-! ## Names -/

/-- The two names of a field. -/
structure Label where
  editor : String
  plain : String
  deriving DecidableEq, Repr

namespace Label

/-- A field whose names are the same. -/
def same (name : String) : Label := ⟨name, name⟩

def coffeesense : Label := same "coffeesense"
def typescript : Label := same "typescript"
def ignoreProjectWarning : Label := ⟨"ignoreProjectWarning", "ignore_project_warning"⟩
def useWorkspaceDependencies : Label :=
  ⟨"useWorkspaceDependencies", "use_workspace_dependencies"⟩
def completion : Label := same "completion"
def autoImport : Label := ⟨"autoImport", "auto_import"⟩
def validation : Label := same "validation"
def script : Label := same "script"
def languageFeatures : Label := ⟨"languageFeatures", "language_features"⟩
def codeActions : Label := ⟨"codeActions", "code_actions"⟩
def updateImportOnFileMove : Label := ⟨"updateImportOnFileMove", "update_import_on_file_move"⟩
def trace : Label := same "trace"
def server : Label := same "server"
def dev : Label := same "dev"
def lspPath : Label := ⟨"lspPath", "lsp_path"⟩
def lspPort : Label := ⟨"lspPort", "lsp_port"⟩
def logLevel : Label := ⟨"logLevel", "log_level"⟩
def tsdk : Label := same "tsdk"

end Label

/-! ## Reading -/

/-- The field with a label among the entries of a mapping, or its default. -/
def Label.read {α : Type} (label : Label) (entries : List (Value × Value)) (default : α)
    (check : Value → Checked α) : Checked α :=
  match Value.lookup? entries label.editor with
  | some v => .under (.name label.editor) (check v)
  | none =>
    match Value.lookup? entries label.plain with
    | some v => .under (.name label.plain) (check v)
    | none => .ok default

/-- Reads the entries of a mapping as the named record. -/
def readRecord {α : Type} (record : String) (fields : List (Value × Value) → Checked α) :
    Value → Checked α
  | .map entries => fields entries
  | _ => .issue (.modelType record)

/-- One of a few texts. -/
def readChoice {α : Type} (choices : List (String × α)) (v : Value) : Checked α :=
  let chosen : Option α :=
    match v with
    | .str t => t.toString?.bind fun s => choices.lookup s
    | _ => none
  match chosen with
  | some a => .ok a
  | none => .issue (.literal (choices.map (·.1)))

def TraceLevel.choices : List (String × TraceLevel) :=
  [("off", .off), ("messages", .messages), ("verbose", .verbose)]

def LogLevel.choices : List (String × LogLevel) :=
  [("INFO", .info), ("DEBUG", .debug)]

def CompletionSettings.ofValue : Value → Checked CompletionSettings :=
  readRecord "CompletionSettings" fun es =>
    let usual : CompletionSettings := {}
    (Label.autoImport.read es usual.autoImport lenientBool).map fun a => ⟨a⟩

def ValidationSettings.ofValue : Value → Checked ValidationSettings :=
  readRecord "ValidationSettings" fun es =>
    let usual : ValidationSettings := {}
    (Label.script.read es usual.script lenientBool).map fun s => ⟨s⟩

def LanguageFeatureSettings.ofValue : Value → Checked LanguageFeatureSettings :=
  readRecord "LanguageFeatureSettings" fun es =>
    let usual : LanguageFeatureSettings := {}
    (Checked.both (Label.codeActions.read es usual.codeActions lenientBool)
      (Label.updateImportOnFileMove.read es usual.updateImportOnFileMove lenientBool)).map
      fun (actions, update) => ⟨actions, update⟩

def TraceSettings.ofValue : Value → Checked TraceSettings :=
  readRecord "TraceSettings" fun es =>
    let usual : TraceSettings := {}
    (Label.server.read es usual.server (readChoice TraceLevel.choices)).map fun s => ⟨s⟩

def DevSettings.ofValue : Value → Checked DevSettings :=
  readRecord "DevSettings" fun es =>
    let usual : DevSettings := {}
    (Checked.both (Label.lspPath.read es usual.lspPath laxText)
      (.both (Label.lspPort.read es usual.lspPort lenientInt)
        (Label.logLevel.read es usual.logLevel (readChoice LogLevel.choices)))).map
      fun (path, port, level) => ⟨path, port, level⟩

def CoreSettings.ofValue : Value → Checked CoreSettings :=
  readRecord "CoffeeSenseSettings" fun es =>
    let usual : CoreSettings := {}
    (Checked.both (Label.ignoreProjectWarning.read es usual.ignoreProjectWarning lenientBool)
      (.both (Label.useWorkspaceDependencies.read es usual.useWorkspaceDependencies lenientBool)
        (.both (Label.completion.read es usual.completion CompletionSettings.ofValue)
          (.both (Label.validation.read es usual.validation ValidationSettings.ofValue)
            (.both (Label.languageFeatures.read es usual.languageFeatures
                LanguageFeatureSettings.ofValue)
              (.both (Label.trace.read es usual.trace TraceSettings.ofValue)
                (Label.dev.read es usual.dev DevSettings.ofValue))))))).map
      fun (ignore, use, completion, validation, features, trace, dev) =>
        ⟨ignore, use, completion, validation, features, trace, dev⟩

def TypeScriptSettings.ofValue : Value → Checked TypeScriptSettings :=
  readRecord "TypeScriptSettings" fun es =>
    let usual : TypeScriptSettings := {}
    (Label.tsdk.read es usual.tsdk (optional laxText)).map fun t => ⟨t⟩

/-- The settings that a value holds, with every issue of it. -/
def ServerSettings.check : Value → Checked ServerSettings :=
  readRecord "LSPConfig" fun es =>
    let usual : ServerSettings := {}
    (Checked.both (Label.coffeesense.read es usual.core CoreSettings.ofValue)
      (Label.typescript.read es usual.typescript TypeScriptSettings.ofValue)).map
      fun (core, typescript) => ⟨core, typescript⟩

def ServerSettings.ofValue (v : Value) : Except Error ServerSettings :=
  (check v).mapError (.invalidRecord "LSPConfig")

/-! ## Writing -/

/-- Which of its names a field is written under. -/
inductive Naming where
  | editor
  | plain
  deriving DecidableEq, Repr

/-- The name of a label as a key. -/
def Label.key (label : Label) : Naming → Value
  | .editor => .str label.editor
  | .plain => .str label.plain

def TraceLevel.toValue : TraceLevel → Value
  | .off => .str "off"
  | .messages => .str "messages"
  | .verbose => .str "verbose"

def LogLevel.toValue : LogLevel → Value
  | .info => .str "INFO"
  | .debug => .str "DEBUG"

def CoreSettings.toValue (naming : Naming) (s : CoreSettings) : Value :=
  .map [
    (Label.ignoreProjectWarning.key naming, .bool s.ignoreProjectWarning),
    (Label.useWorkspaceDependencies.key naming, .bool s.useWorkspaceDependencies),
    (Label.completion.key naming,
      .map [(Label.autoImport.key naming, .bool s.completion.autoImport)]),
    (Label.validation.key naming, .map [(Label.script.key naming, .bool s.validation.script)]),
    (Label.languageFeatures.key naming, .map [
      (Label.codeActions.key naming, .bool s.languageFeatures.codeActions),
      (Label.updateImportOnFileMove.key naming,
        .bool s.languageFeatures.updateImportOnFileMove)]),
    (Label.trace.key naming, .map [(Label.server.key naming, s.trace.server.toValue)]),
    (Label.dev.key naming, .map [
      (Label.lspPath.key naming, .str s.dev.lspPath),
      (Label.lspPort.key naming, .int s.dev.lspPort),
      (Label.logLevel.key naming, s.dev.logLevel.toValue)])]

def TypeScriptSettings.toValue (naming : Naming) (s : TypeScriptSettings) : Value :=
  .map [(Label.tsdk.key naming, match s.tsdk with | none => .null | some t => .str t)]

/-- The settings as nested mappings. -/
def ServerSettings.toValue (naming : Naming) (s : ServerSettings) : Value :=
  .map [(Label.coffeesense.key naming, s.core.toValue naming),
    (Label.typescript.key naming, s.typescript.toValue naming)]

/-! ## Dotted names -/

/-- The name of an entry below `path`. -/
def dotted (path key : Text) : Text :=
  if path = [] then key else path ++ "." ++ key

mutual

/-- Everything in nested mappings that is no mapping, in order, under its
dotted name below `path`. -/
def Value.leaves (path : Text) : Value → List (Text × Value)
  | .map entries => entryLeaves path entries
  | v => [(path, v)]

def entryLeaves (path : Text) : List (Value × Value) → List (Text × Value)
  | [] => []
  | (k, v) :: rest => v.leaves (dotted path k.plain) ++ entryLeaves path rest

end

/-- A tree of mappings laid out as a single one. -/
def Value.flattened (path : Text) (v : Value) : Value :=
  Value.mapping ((v.leaves path).map fun (name, leaf) => (.str name, leaf))

def ServerSettings.flattened (path : Text) (s : ServerSettings) : Value :=
  (s.toValue .editor).flattened path

def FullConfig.flattened (path : Text) (c : FullConfig) : Value :=
  c.toFullValue.flattened path

/-! ## Single settings -/

/-- The default of a setting by its dotted name; settings that are unset by
default have none. -/
def defaultSetting? (key : Text) : Option Value :=
  match (((({} : ServerSettings).toValue .editor).leaves []).lookup key) with
  | none | some .null => none
  | some v => some v

/-- The value of a setting: the one in the configuration, or else the default
of the server. -/
def setting? (config : Option FullConfig) (key : Text) : Option Value :=
  match config.bind fun c => c.settings.lookup key with
  | some v => some v.toValue
  | none => defaultSetting? key

/-- The value of a setting that has to have one; `message` replaces the usual
text of the error. -/
def requireSetting (config : Option FullConfig) (key : Text) (message : Option Text) :
    Except Error Value :=
  match setting? config key with
  | some v => .ok v
  | none => .error (.settingMissing key message)

end Workspace
