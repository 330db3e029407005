import HostBindings.Json.Display
import HostBindings.Json.Use

/-!
# Settings

The settings of a generator as a document gives them: a JSON value for every setting, whatever its
kind. Settings that belong to the generated language only are members of the custom section; a
setting that is not known goes there too.

## Main definitions

* `Settings` — the settings, with their defaults
* `Settings.ofMembers` — settings from the members of a document
* `Settings.toMembers` — the members that a saved document has
-/

namespace HostBindings

open Json (Members)

/-- The settings of a generator. -/
structure Settings where
  /-- The package of the generated code. -/
  packageName : Json := .string "electron"
  /-- Whether every block goes to a file of its own. -/
  perBlockOutput : Json := .bool false
  /-- Whether descriptions become comments. -/
  addComments : Json := .bool true
  /-- Whether fields get a tag with their name in the host. -/
  generateTags : Json := .bool true
  /-- The key of that tag. -/
  tagKey : Json := .string "js"
  /-- The field for the host handle; empty to embed it. -/
  hostHandleField : Json := .string "HostHandle"
  /-- What the names of event constants begin with. -/
  eventLead : Json := .string "Evt"
  /-- The suffix of the names of modules. -/
  moduleSuffix : Json := .string "Module"
  /-- Whether a suspicious event name is passed with a warning or fails its block. -/
  eventLiteralMode : Json := .string "lenient"
  /-- The host process whose blocks are generated; null for all. -/
  processFilter : Json := .null
  /-- The settings of the generated language. -/
  custom : Json := .object []
  deriving DecidableEq, Inhabited

namespace Settings

/-- The keys of the settings, in the order of a saved document. -/
def keys : List String :=
  ["package_name", "per_block_output", "add_comments", "generate_tags", "tag_key",
    "host_handle_field", "event_prefix", "module_suffix", "event_literal_mode", "process_filter",
    "custom"]

/-- The values of the settings, in the order of their keys. -/
def values (settings : Settings) : List Json :=
  [settings.packageName, settings.perBlockOutput, settings.addComments, settings.generateTags,
    settings.tagKey, settings.hostHandleField, settings.eventLead, settings.moduleSuffix,
    settings.eventLiteralMode, settings.processFilter, settings.custom]

/-- The members of a saved document. -/
def toMembers (settings : Settings) : Members :=
  keys.zip settings.values

/-- Settings from members, without regard to unknown keys. -/
def ofKnown (members : Members) : Settings :=
  let value := fun key (default : Json) => (members.get? key).getD default
  let defaults : Settings := {}
  { packageName := value "package_name" defaults.packageName
    perBlockOutput := value "per_block_output" defaults.perBlockOutput
    addComments := value "add_comments" defaults.addComments
    generateTags := value "generate_tags" defaults.generateTags
    tagKey := value "tag_key" defaults.tagKey
    hostHandleField := value "host_handle_field" defaults.hostHandleField
    eventLead := value "event_prefix" defaults.eventLead
    moduleSuffix := value "module_suffix" defaults.moduleSuffix
    eventLiteralMode := value "event_literal_mode" defaults.eventLiteralMode
    processFilter := value "process_filter" defaults.processFilter
    custom := value "custom" defaults.custom }

/-- The key and value that an item of a list of pairs gives; `index` is its place in the list. -/
def pairOf (index : Nat) (item : Json) : Except UseFault (String × Json) :=
  match item with
  | .array [key, value] =>
    match key with
    | .array _ | .object _ => .error (.unhashable key.kindName)
    | _ => .ok (key.text, value)
  | .array items => .error (.memberLength index items.length)
  | .string text =>
    match text.toList with
    | [key, value] => .ok (String.singleton key, .string (String.singleton value))
    | chars => .error (.memberLength index chars.length)
  | .object [(key, _), (value, _)] => .ok (key, .string value)
  | .object members => .error (.memberLength index members.length)
  | _ => .error (.memberNotPair index)

/-- The members that a value gives: those of an object, or a list of pairs. -/
def membersFrom (value : Json) : Except UseFault Members :=
  match value with
  | .object members => .ok members
  | .array items => do
    let pairs ← items.zipIdx.mapM fun (item, index) => pairOf index item
    return Members.merge [] pairs
  | .string text => do
    let pairs ← text.toList.zipIdx.mapM fun (c, index) =>
      pairOf index (.string (String.singleton c))
    return Members.merge [] pairs
  | other => .error (.notIterable other.kindName)

/-- Settings from the members of a document. Unknown keys go to the custom section, over what is
there. -/
def ofMembers (members : Members) : Except UseFault Settings :=
  let known := ofKnown members
  let unknown := members.filter fun member => !keys.contains member.1
  if unknown.isEmpty then .ok known
  else do
    let custom ← membersFrom known.custom
    return { known with custom := .object (custom.merge unknown) }

/-- Settings from members that may not have unknown keys. -/
def ofKnownOnly (members : Members) : Except UseFault Settings :=
  match members.find? fun member => !keys.contains member.1 with
  | some (key, _) => .error (.unknownSetting key)
  | none => .ok (ofKnown members)

/-- The members of the custom section, if it is one. -/
def customMembers (settings : Settings) : Except UseFault Members :=
  if settings.custom.truthy then membersFrom settings.custom else .ok []

end Settings

end HostBindings
