import HostBindings.Generator
import HostBindings.Text.Order

/-!
# The registry of languages

Languages by name. A language is registered once, under a primary name and under aliases; letter
case does not count. An alias belongs to one language and is never the primary name of another at
the time it is registered. A registration that is refused changes nothing.

## Main definitions

* `Backend` — what makes the generators of a language
* `Registry`, `Registry.register`, `Registry.resolve`, `Registry.backend`
* `Registry.Call`, `Registry.enroll` — calls on a registry that is kept from one to the next
* `Registry.create` — a generator for a language and settings from one of several sources
* `Registry.info`, `Registry.allInfo` — descriptions of languages
* `Registry.builtin` — the languages that are always there
-/

namespace HostBindings

open Json (Members)

variable [WorkingDirectory]

/-- What makes the generators of a language, by the names under which it is described. -/
structure Backend where
  /-- The name of the generators. -/
  name : String
  /-- The module they are from. -/
  moduleName : String
  deriving DecidableEq, Repr

/-- The generators of Go bindings. -/
def Backend.go : Backend := ⟨"GoGenerator", "api_bindgen.codegen.languages.go.generator"⟩

/-- Why a registry refuses a request. -/
inductive RegistryError where
  /-- What was offered makes no generators. -/
  | noBackend
  /-- An alias is the primary name of a language. -/
  | aliasIsLanguage (name : String)
  /-- An alias belongs to another language. -/
  | aliasTaken (name language : String)
  /-- A name that nothing is registered under; `available` are the primary names. -/
  | unknown (language : String) (available : List String)
  /-- Settings of a kind that settings cannot be made of. -/
  | badSettings (kind : String)
  /-- A generator that cannot be made. -/
  | failed (language : String) (cause : Settings.LoadError)
  deriving DecidableEq, Repr

/-- The wording of a refusal. -/
def RegistryError.message : RegistryError → String
  | .noBackend => "Generator class must inherit from CodeGenerator"
  | .aliasIsLanguage name => s!"Alias '{name}' conflicts with existing primary language"
  | .aliasTaken name language => s!"Alias '{name}' already points to '{language}'"
  | .unknown language available =>
    s!"No generator registered for language: {language}. Available: " ++
      ", ".intercalate available
  | .badSettings kind => s!"Invalid config type: <class '{kind}'>"
  | .failed language cause => s!"Failed to create {language} generator: {cause.message}"

/-- Where the settings of a new generator come from. -/
inductive SettingsSource where
  /-- They are the defaults of the language. -/
  | defaults
  /-- They are given. -/
  | given (settings : Settings)
  /-- A settings file, over the defaults. -/
  | file (path : String)
  /-- Single settings, over the defaults. -/
  | overrides (members : Members)
  /-- A value of a kind that settings cannot be made of. -/
  | unfit (kind : String)

/-- Where settings come from that are given as a JSON value. -/
def SettingsSource.ofJson : Json → SettingsSource
  | .null => .defaults
  | .string path => .file path
  | .object members => .overrides members
  | other => .unfit other.kindName

/-- Languages, by primary name, and aliases. All names are in lower case. -/
structure Registry where
  /-- The primary names. -/
  backends : List (String × Backend) := []
  /-- The aliases, with the primary name each stands for. -/
  aliases : List (String × String) := []
  deriving DecidableEq, Repr, Inhabited

/-- The description of a language. -/
structure LanguageInfo where
  /-- The generated language. -/
  name : String
  /-- What makes its generators. -/
  backend : Backend
  /-- The extension of generated files. -/
  fileExtension : String
  /-- The aliases, in order. -/
  aliases : List String
  /-- The templates, in order. -/
  templates : List String
  deriving DecidableEq, Repr

namespace Registry

/-- The list with a key set, in its place if it is there already, else at the end. -/
def putAlias (aliases : List (String × String)) (name language : String) :
    List (String × String) :=
  if (aliases.lookup name).isSome then
    aliases.map fun entry => if entry.1 = name then (name, language) else entry
  else aliases ++ [(name, language)]

/-- Checks that a language can have an alias. -/
def checkAlias (registry : Registry) (language name : String) : Except RegistryError Unit :=
  if (registry.backends.lookup name).isSome then .error (.aliasIsLanguage name)
  else
    match registry.aliases.lookup name with
    | some other => if other = language then .ok () else .error (.aliasTaken name other)
    | none => .ok ()

/-- The registry with a language registered. A language that is registered already keeps what it
has, aliases included. -/
def register (registry : Registry) (language : String) (backend : Option Backend)
    (aliases : List String := []) : Attempt RegistryError Registry := do
  match backend with
  | none => throw .noBackend
  | some backend =>
    let key := Text.lowerCase language
    if (registry.backends.lookup key).isSome then
      report .debug s!"Generator for {key} already registered"
      return registry
    else
      let names := (aliases.map Text.lowerCase).filter (· ≠ key)
      -- all aliases are checked before any of them is entered
      names.forM fun name => Attempt.ofExcept (registry.checkAlias key name)
      return {
        backends := registry.backends ++ [(key, backend)]
        aliases := names.foldl (fun known name => putAlias known name key) registry.aliases }

/-- A call on a registry: it reports, and it may fail. What it changes before it fails stays. -/
abbrev Call := ExceptT RegistryError (StateT Registry Logged)

/-- The checks of the aliases that a language is to have. -/
def Call.checkAliases (language : String) (names : List String) : Call Unit :=
  names.forM fun name => do MonadExcept.ofExcept ((← get).checkAlias language name)

/-- The changes that list a language with aliases. -/
def Call.enter (language : String) (backend : Backend) (names : List String) : Call Unit := do
  modify fun registry => { registry with backends := registry.backends ++ [(language, backend)] }
  names.forM fun name =>
    modify fun registry => { registry with aliases := putAlias registry.aliases name language }

/-- The call that registers a language. All checks come before the first change. -/
def enroll (language : String) (backend : Option Backend) (aliases : List String := []) :
    Call Unit := do
  match backend with
  | none => throw .noBackend
  | some backend =>
    let key := Text.lowerCase language
    if ((← get).backends.lookup key).isSome then
      report .debug s!"Generator for {key} already registered"
    else
      let names := (aliases.map Text.lowerCase).filter (· ≠ key)
      Call.checkAliases key names
      Call.enter key backend names

/-- The primary name that a name or an alias stands for. An unknown name stands for itself. -/
def resolve (registry : Registry) (language : String) : String :=
  let key := Text.lowerCase language
  (registry.aliases.lookup key).getD key

/-- The primary names, in order. -/
def languages (registry : Registry) : List String :=
  sortTexts (registry.backends.map (·.1))

/-- What is registered under a name or an alias. -/
def backend (registry : Registry) (language : String) : Except RegistryError Backend :=
  match registry.backends.lookup (registry.resolve language) with
  | some backend => .ok backend
  | none => .error (.unknown language registry.languages)

/-- Whether something is registered under a name or an alias. -/
def isSupported (registry : Registry) (language : String) : Bool :=
  (registry.backends.lookup (registry.resolve language)).isSome

/-- The aliases of a language, in order. -/
def aliasesOf (registry : Registry) (language : String) : List String :=
  let key := Text.lowerCase language
  sortTexts ((registry.aliases.filter (·.2 = key)).map (·.1))

/-- The settings of a new generator. -/
def settingsFrom (tree : FileTree) (primary : String) (source : SettingsSource) :
    Attempt Settings.LoadError Settings :=
  match source with
  | .given settings => pure settings
  | .file path => Settings.resolve tree primary [] path
  | .overrides members => Settings.resolve tree primary members
  | .defaults | .unfit _ => Settings.resolve tree primary

/-- A generator for a language. -/
def create (registry : Registry) (tree : FileTree) (language : String)
    (source : SettingsSource := .defaults) : Attempt RegistryError Generator := do
  match registry.backend language, source with
  | .error error, _ => throw error
  | .ok _, .unfit kind => throw (.badSettings kind)
  | .ok _, source =>
    let made : Attempt Settings.LoadError Generator := do
      let settings ← settingsFrom tree (registry.resolve language) source
      Attempt.ofExcept (Generator.ofSettings settings)
    made.mapError (RegistryError.failed language)

/-- The description of a language. -/
def info (registry : Registry) (language : String) : Except RegistryError LanguageInfo := do
  let backend ← registry.backend language
  return {
    name := Generator.language
    backend
    fileExtension := Generator.fileExtension
    aliases := registry.aliasesOf (registry.resolve language)
    templates := sortTexts Template.Library.builtin.names }

/-- The descriptions of all languages, by primary name. -/
def allInfo (registry : Registry) : List (String × LanguageInfo) :=
  registry.languages.filterMap fun language =>
    match registry.info language with
    | .ok info => some (language, info)
    | .error _ => none

/-- The languages that are always there: Go. -/
def builtin : Registry :=
  { backends := [("go", .go)], aliases := [("golang", "go")] }

end Registry

end HostBindings
