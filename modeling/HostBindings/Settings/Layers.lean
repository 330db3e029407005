import HostBindings.Files.Tree
import HostBindings.Json.Reader
import HostBindings.Json.Writer
import HostBindings.Log
import HostBindings.Settings.Basic
import HostBindings.Text.Lines
import HostBindings.Text.LowerCase

/-!
# Layers of settings

Settings come from three layers: the defaults of the language, a settings file, and overrides. A
later layer wins, setting by setting; the custom sections are merged key by key. Settings can be
saved to a file and read back.

## Main definitions

* `Settings.languageDefaults` — the first layer
* `Settings.overlay` — one layer over another
* `Settings.resolve`, `Settings.resolveValues` — the settings of all layers
* `Settings.ConfigError`, `Settings.LoadError` — why settings cannot be had or saved
* `Settings.save` — settings written to a file
-/

namespace HostBindings.Settings

open Json (Members)

variable [WorkingDirectory]

/-- What is wrong with a settings file, or with the settings of the generated language. -/
inductive ConfigError where
  | notFound (path : String)
  | notJsonFile (path : String)
  | invalidJson (path : String) (error : Json.ReadError)
  | unreadable (path : String) (fault : FileFault)
  | notObject (path : String)
  | unwritable (path : String) (fault : FileFault)
  | badIntType (found : String)
  | badFloatType (found : String)
  | badOverrides
  deriving DecidableEq, Repr

/-- The wording of an error. -/
def ConfigError.message : ConfigError → String
  | .notFound path => s!"Configuration file not found: {path}"
  | .notJsonFile path => s!"Configuration file must be JSON: {path}"
  | .invalidJson path error => s!"Invalid JSON in configuration file {path}: {error.message}"
  | .unreadable path fault => s!"Failed to load configuration file {path}: {fault.message}"
  | .notObject path => s!"Configuration file must contain a JSON object: {path}"
  | .unwritable path fault => s!"Failed to save configuration to {path}: {fault.message}"
  | .badIntType found => s!"Invalid int_type: {found}"
  | .badFloatType found => s!"Invalid float_type: {found}"
  | .badOverrides => "type_overrides must be an object mapping tags to Go types"

/-- Why settings cannot be had or saved. -/
inductive LoadError where
  | config (error : ConfigError)
  | setting (fault : UseFault)
  /-- It cannot be found out whether a file is there, no file can have the path, or the content is
  no text. -/
  | file (fault : FileFault)
  /-- A file beyond a limit of the reader. -/
  | limit (error : Json.ReadError)
  /-- Settings beyond a limit of the writer. -/
  | unsaved (error : Json.WriteError)
  deriving DecidableEq, Repr

/-- The wording of an error. -/
def LoadError.message : LoadError → String
  | .config error => error.message
  | .setting fault => fault.message
  | .file fault => fault.message
  | .limit error => error.message
  | .unsaved error => error.message

/-- The types of the generated language and the import of its host package, by default. -/
def defaultTypes : Members :=
  [("string_type", .string "string"), ("int_type", .string "int64"),
    ("float_type", .string "float64"), ("bool_type", .string "bool"),
    ("dynamic_type", .string "*js.Object"), ("host_handle_type", .string "*js.Object"),
    ("host_import", .string "github.com/gopherjs/gopherjs/js")]

/-- The languages with defaults, and these. -/
def defaults : List (String × Members) :=
  [("go",
    [("package_name", .string "electron"), ("add_comments", .bool true),
      ("generate_tags", .bool true), ("tag_key", .string "js"),
      ("host_handle_field", .string "HostHandle"),
      ("custom", .object (defaultTypes ++ [("type_overrides", .object [])]))])]

/-- The defaults of a language in any letter case; none for an unknown one. -/
def languageDefaults (language : String) : Members :=
  (defaults.lookup (Text.lowerCase language)).getD []

/-- One member laid over a layer. A custom section that is an object is merged key by key. -/
def overlayMember (layer : Members) (member : String × Json) : Except UseFault Members :=
  match member with
  | ("custom", .object extra) =>
    match (layer.get? "custom").getD (.object []) with
    | .object below => .ok (layer.put "custom" (.object (Members.merge below extra)))
    | other => .error (.lacks other.kindName "update")
  | (key, value) => .ok (layer.put key value)

/-- One layer over another. -/
def overlay (layer overrides : Members) : Except UseFault Members :=
  overrides.foldlM overlayMember layer

/-- The members of a document. -/
def readMembers (path content : String) : Except LoadError Members :=
  match Json.read content with
  | .error error =>
    .error (if error.isLimit then .limit error else .config (.invalidJson path error))
  | .ok (.object members) => .ok members
  | .ok _ => .error (.config (.notObject path))

/-- The members of a settings file. -/
def readFile (tree : FileTree) (path : Path) : Except LoadError Members := do
  match tree.probe path with
  | .error fault => .error (.file fault)
  | .ok none => .error (.config (.notFound path.text))
  | .ok (some _) =>
    if Text.lowerCase path.extension ≠ ".json" then .error (.config (.notJsonFile path.text))
    else
      match tree.read path with
      | .error fault =>
        .error (if fault.isRefusal then .config (.unreadable path.text fault) else .file fault)
      | .ok content => readMembers path.text (Text.unifyLineEnds content)

/-- A use of settings as part of loading them. -/
def ofSetting (result : Except UseFault α) : Attempt LoadError α :=
  Attempt.ofExcept (result.mapError LoadError.setting)

/-- The defaults of a language with the members of a file over them. An empty path names no file. -/
def withFile (tree : FileTree) (language file : String) : Attempt LoadError Members := do
  let base := languageDefaults language
  if file = "" then return base
  else
    let path := Path.ofString file
    let members ← readFile tree path
    report .debug s!"Loaded configuration from {path.text}"
    ofSetting (overlay base members)

/-- The settings of a language: its defaults, under those of a file, under overrides. -/
def resolve (tree : FileTree) (language : String) (overrides : Members := [])
    (file : String := "") : Attempt LoadError Settings := do
  let below ← withFile tree language file
  let merged ← ofSetting (overlay below overrides)
  ofSetting (ofMembers merged)

/-- The members that a value gives as overrides: none if it is switched off. -/
def overridesFrom (value : Json) : Except UseFault Members :=
  match value with
  | .object members => .ok members
  | other => if other.truthy then .error (.lacks other.kindName "items") else .ok []

/-- The settings of a language where the language, the overrides and the file are values of any
kind; a file that is switched off is none. -/
def resolveValues (tree : FileTree) (language overrides file : Json) :
    Attempt LoadError Settings := do
  let language ← ofSetting (language.textFor "lower")
  let file ← ofSetting (if file.truthy then file.pathText else .ok "")
  -- the file is read before the overrides are looked at
  let below ← withFile tree language file
  let overrides ← ofSetting (overridesFrom overrides)
  let merged ← ofSetting (overlay below overrides)
  ofSetting (ofMembers merged)

/-- The document that settings are saved as. -/
def document (settings : Settings) : String :=
  Json.indented (.object settings.toMembers)

/-- The greatest number of arrays and objects that are open at once in settings that are saved. They
are copied first, and that takes more room than reading them. -/
def savedNestingLimit : Nat := 495

/-- The tree with settings saved to a file. Integers are written once the file is open. -/
def save (tree : FileTree) (settings : Settings) (file : String) :
    Except LoadError FileTree :=
  let path := Path.ofString file
  let saved := Json.object settings.toMembers
  if savedNestingLimit < saved.depth then .error (.unsaved .tooDeep)
  else
    match tree.write path settings.document with
    | .error fault =>
      .error (if fault.isRefusal then .config (.unwritable path.text fault) else .file fault)
    | .ok tree =>
      if Json.digitLimit < saved.longestInteger then
        .error (.unsaved (.longInteger Json.digitLimit))
      else .ok tree

/-- The languages with defaults. -/
def languages : List String := defaults.map (·.1)

end HostBindings.Settings
