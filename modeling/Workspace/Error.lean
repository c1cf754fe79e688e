/-
Workspace.Error — everything that can go wrong, and how it is reported.

An `Error` is a cause. Its `message` is the text for the user, its
`category` says what kind of trouble it is, and `Error.report` puts both
together with the path concerned and a hint. Causes outside the three
documented categories are reported as unknown; only a refusal to open the
`.env` file, which comes straight from the operating system, is reported as
trouble with the disk.
-/
import Workspace.Disk
import Workspace.Issue
import Workspace.Json.Reader
import Workspace.World

namespace Workspace

inductive Category where
  | validation
  | io
  | config
  | unknown
  deriving DecidableEq, Repr

def Category.name : Category → String
  | .validation => "validation"
  | .io => "io"
  | .config => "config"
  | .unknown => "unknown"

/-- What to do about an error of a category. -/
def Category.hint : Category → String
  | .validation => "Each project must be a path string or a mapping with a 'root' key."
  | .io => "Check permissions on the workspace directories."
  | .config => "Check that the config file is valid YAML or JSON."
  | .unknown => ""

inductive Error where
  /-- The configuration does not match the documented shape. -/
  | invalidConfig (issues : List Issue)
  /-- A declaration is neither a path nor a record. -/
  | notDeclaration (value : Value)
  /-- A configuration is no mapping. -/
  | notConfig (kind : String)
  /-- A required setting has no value; `message` replaces the usual text. -/
  | settingMissing (key : Text) (message : Option Text)
  /-- A candidate of a search cannot be inspected. -/
  | uninspectable (path : Text) (fault : OsFault)
  /-- A search failed with a message of its own. -/
  | searchFailed (message path : Text)
  | unreadable (path : Text) (fault : OsFault)
  | unparsableJson (path : Text) (fault : Json.SyntaxFault)
  | unparsableYaml (path : Text)
  | notMapping (path : Text) (kind : String)
  /-- Fields handed over directly do not fit the named record. -/
  | invalidRecord (record : String) (issues : List Issue)
  | nulInPath
  /-- The `.env` file cannot be read, or sets a variable that cannot be set. -/
  | unsettable (fault : SettleFault)
  | content (fault : ContentFault)

/-- The error that a text which is no path leads to. -/
def SpellingFault.error : SpellingFault → Error
  | .nul => .nulInPath
  | .surrogate fault => .content (.unencodable fault)

namespace Error

/-- The text of an error. Of `invalidConfig` and `invalidRecord` this is the
first line, which counts the issues; the lines that list them are left out. Of
`unparsableYaml` it is what comes before the reason, which is left out. -/
def message : Error → Text
  | invalidConfig issues =>
    "Invalid CoffeeSense configuration: " ++ validationHeadline "CoffeeSenseConfig" issues
  | notDeclaration value =>
    "Project declaration must be a path or a mapping with 'root', got " ++ value.shown
  | notConfig kind => "CoffeeSense configuration must be a mapping, got " ++ kind
  | settingMissing key none => "Required setting '" ++ key ++ "' is not set"
  | settingMissing key (some []) => "Required setting '" ++ key ++ "' is not set"
  | settingMissing _ (some text) => text
  | uninspectable path fault =>
    "Cannot inspect " ++ path ++ ": "
      ++ (if fault.reason = "" then fault.describe path else fault.reason : String)
  | searchFailed text _ => text
  | unreadable path fault => "Cannot read config file " ++ path ++ ": " ++ fault.describe path
  | unparsableJson path fault => "Cannot parse config file " ++ path ++ ": " ++ fault.message
  | unparsableYaml path => "Cannot parse config file " ++ path
  | notMapping path kind => "Config file " ++ path ++ " must contain a mapping, got " ++ kind
  | invalidRecord record issues => validationHeadline record issues
  | nulInPath => "embedded null byte"
  | unsettable (.unsettable fault) => fault.message
  | unsettable (.unreadable (.undecodable fault)) => (ContentFault.undecodable fault).message
  | unsettable (.unreadable (.refused path fault)) => fault.describe path
  | content fault => fault.message

def category : Error → Category
  | invalidConfig _ | notDeclaration _ | notConfig _ | settingMissing .. => .validation
  | uninspectable .. | searchFailed .. | unsettable (.unreadable (.refused ..)) => .io
  | unreadable .. | unparsableJson .. | unparsableYaml _ | notMapping .. => .config
  | invalidRecord .. | nulInPath | content _ | unsettable (.unsettable _)
  | unsettable (.unreadable (.undecodable _)) => .unknown

/-- The path that an error is about. -/
def path? : Error → Option Text
  | uninspectable path _ | searchFailed _ path | unreadable path _ | unparsableJson path _
  | unparsableYaml path | notMapping path _ | unsettable (.unreadable (.refused path _)) =>
    some path
  | _ => none

end Error

/-- An error as it is shown to the user. -/
structure Report where
  category : Category
  message : Text
  path : Option Text
  hint : String
  deriving DecidableEq, Repr

def Error.report (e : Error) : Report :=
  ⟨e.category, e.message, e.path?, e.category.hint⟩

end Workspace
