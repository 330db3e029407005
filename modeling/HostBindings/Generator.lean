import HostBindings.Naming.Scheme
import HostBindings.Settings.Meaning
import HostBindings.Settings.Types
import HostBindings.Template.Library

/-!
# Generators

A generator is made of checked settings. It names entities, finds types, and knows where a block
goes that gets a file of its own.

## Main definitions

* `Generator`, `Generator.ofSettings`
* `Generator.symbol`, `Generator.baseSymbol`, `Generator.stem` — names
* `Generator.packageOf`, `Generator.outputPath` — the place of a block
-/

namespace HostBindings

open Api (Block Info)

/-- A generator of bindings. -/
structure Generator where
  /-- Its settings. -/
  settings : Settings := {}
  /-- How it makes names. -/
  naming : Naming.Scheme := .plain {}
  /-- Its types. -/
  types : TypeSettings := {}
  /-- Its templates. -/
  templates : Template.Library := Template.Library.builtin
  deriving Inhabited

namespace Generator

/-- The generated language. -/
def language : String := "go"

/-- The extension of generated files. -/
def fileExtension : String := ".go"

/-- The corrections of spelling that settings add. -/
def correctionsOf (settings : Settings) : Except UseFault (List Naming.LooseRule) :=
  match settings.custom with
  | .object custom => Naming.readCorrections ((custom.lookup "acronyms").getD .null)
  | other => .error (.lacks other.kindName "get")

/-- The generator that settings make. -/
def ofSettings (settings : Settings) : Except Settings.LoadError Generator := do
  let extra ← (correctionsOf settings).mapError Settings.LoadError.setting
  let types ← TypeSettings.ofSettings settings
  return { settings, naming := .ofTables (.ofCorrections extra settings.moduleSuffix), types }

/-- The generator that a value makes: null stands for the defaults, and members are settings over
them. -/
def ofValue [WorkingDirectory] (tree : FileTree) (value : Json) :
    Attempt Settings.LoadError Generator :=
  match value with
  | .null => make []
  | .object members => make members
  | other => throw (.setting (.lacks other.kindName "custom"))
where
  make (overrides : Json.Members) : Attempt Settings.LoadError Generator := do
    let settings ← Settings.resolve tree language overrides
    Attempt.ofExcept (ofSettings settings)

/-- The identifier of a name. -/
def symbol (generator : Generator) (name : String) : Except UseFault String :=
  (generator.naming.symbol name).map Json.text

/-- The identifier of an entity, with the suffix of modules. -/
def baseSymbol (generator : Generator) (info : Info) : Except UseFault String :=
  (generator.naming.baseSymbol info).map Json.text

/-- The identifier of an entity without the suffix of modules. -/
def stem (generator : Generator) (info : Info) : Except UseFault String :=
  (generator.naming.stem info).map Json.text

/-- The package of a block that is written to a file of its own. -/
def packageOf (generator : Generator) (block : Block) : Except UseFault String := do
  return Naming.packageOfSymbol (← generator.baseSymbol block.info)

/-- The file of a block that is written to a file of its own. -/
def outputPath (generator : Generator) (block : Block) (directory : Path) :
    Except UseFault Path := do
  let package ← generator.packageOf block
  return (directory.child package).child (package ++ fileExtension)

end Generator

end HostBindings
