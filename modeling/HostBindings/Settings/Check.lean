import HostBindings.Settings.Meaning
import HostBindings.Text.Identifier

/-!
# Checking settings

What is worth a warning about settings before anything is generated with them. A setting that is
looked up or asked for a property it cannot have is a fault.

## Main definitions

* `Settings.Problem` — what can be wrong; `Problem.message` its wording
* `Settings.problems` — the problems of settings
-/

namespace HostBindings.Settings

/-- What is worth a warning about settings. -/
inductive Problem where
  /-- An unknown way to treat event names. -/
  | eventMode (shown : String)
  /-- An unknown process. -/
  | process (shown : String)
  /-- Tags are wanted, but their key is empty. -/
  | emptyTagKey
  /-- The host handle has a name that is no identifier. -/
  | hostField (name : String)
  /-- A flaw of the package name. -/
  | package (flaw : Naming.PackageFlaw)
  deriving DecidableEq, Repr

/-- The wording of a problem. -/
def Problem.message : Problem → String
  | .eventMode shown => s!"Invalid event_literal_mode: {shown}"
  | .process shown => s!"Invalid process_filter: {shown}"
  | .emptyTagKey => "generate_tags is set but tag_key is empty"
  | .hostField name => s!"Invalid host_handle_field: {name}"
  | .package flaw => flaw.message

/-- Whether a value is one of a few texts. -/
def isOneOf (value : Json) (choices : List String) : Except UseFault Bool :=
  match value with
  | .string text => .ok (choices.contains text)
  | .array _ | .object _ => .error (.unhashable value.kindName)
  | _ => .ok false

/-- Whether a value is an identifier. -/
def isIdentifierValue (value : Json) : Except UseFault Bool :=
  match value with
  | .string text => .ok (Text.isIdentifier text.toList)
  | other => .error (.lacks other.kindName "isidentifier")

/-- The problem of a value, unless a check passes it. -/
def unlessPassed (check : Except UseFault Bool) (problem : Problem) :
    Except UseFault (List Problem) :=
  check.map fun passed => if passed then [] else [problem]

/-- The problems of settings. The package name is checked for the language that has rules for it; a
process and a host handle that are switched off are not checked. -/
def problems (settings : Settings) (language : String) : Except UseFault (List Problem) := do
  let mode := settings.eventLiteralMode
  let modes ← unlessPassed (isOneOf mode ["lenient", "strict"]) (.eventMode mode.text)
  let filter := settings.processFilter
  let filters ←
    if filter.truthy then
      unlessPassed (isOneOf filter ["main", "renderer"]) (.process filter.text)
    else pure []
  let tags :=
    if settings.generateTags.truthy && !settings.tagKey.truthy then [Problem.emptyTagKey] else []
  let field := settings.hostHandleField
  let fields ←
    if field.truthy then unlessPassed (isIdentifierValue field) (.hostField field.text)
    else pure []
  let packages ←
    if language = "go" then settings.packageFlaws.map fun flaws => flaws.map Problem.package
    else pure []
  return modes ++ filters ++ tags ++ fields ++ packages

end HostBindings.Settings
