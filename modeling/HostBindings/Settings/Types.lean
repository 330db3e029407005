import HostBindings.BindingType
import HostBindings.Settings.Layers
import HostBindings.Text.Lines

/-!
# Type settings

The settings of the custom section that choose the types of the generated language. They are
checked when a generator is made; a type of a kind other than text has a fault only where its
imports are asked for.

## Main definitions

* `TypeSettings`, `TypeSettings.ofMembers` — the settings, checked
* `TypeSettings.importsFor` — the imports that a type expression needs
* `TypeSettings.basicType`, `TypeSettings.hostHandle` — types with their imports
-/

namespace HostBindings

open Json (Members)

/-- The type settings, as values. -/
structure TypeSettings where
  /-- The type of texts. -/
  stringType : Json := .string "string"
  /-- The type of integers. -/
  intType : Json := .string "int64"
  /-- The type of other numbers. -/
  floatType : Json := .string "float64"
  /-- The type of truth values. -/
  boolType : Json := .string "bool"
  /-- The handle for what the description leaves opaque. -/
  dynamicType : Json := .string "*js.Object"
  /-- The handle that every generated structure wraps. -/
  hostHandleType : Json := .string "*js.Object"
  /-- The import path of the host package. -/
  hostImport : Json := .string "github.com/gopherjs/gopherjs/js"
  /-- Types for single tags. -/
  overrides : Json := .object []
  deriving DecidableEq, Inhabited

namespace TypeSettings

/-- The keys of the type settings. -/
def keys : List String :=
  ["string_type", "int_type", "float_type", "bool_type", "dynamic_type", "host_handle_type",
    "host_import", "type_overrides"]

/-- The members that give these settings. -/
def toMembers (types : TypeSettings) : Members :=
  keys.zip [types.stringType, types.intType, types.floatType, types.boolType, types.dynamicType,
    types.hostHandleType, types.hostImport, types.overrides]

/-- The types that integers may have. -/
def intTypes : List String := ["int", "int8", "int16", "int32", "int64"]

/-- The types that other numbers may have. -/
def floatTypes : List String := ["float32", "float64"]

/-- Checks a type that has to be one of a few, unless it is switched off. -/
def checkChoice (value : Json) (choices : List String) (refusal : String → Settings.ConfigError) :
    Except Settings.LoadError Unit :=
  if !value.truthy then .ok ()
  else
    match value with
    | .string name => if choices.contains name then .ok () else .error (.config (refusal name))
    | .array _ | .object _ => .error (.setting (.unhashable value.kindName))
    | other => .error (.config (refusal other.text))

/-- The settings that the members of the custom section give, over the defaults. -/
def ofMembers (custom : Members) : Except Settings.LoadError TypeSettings := do
  let value := fun key => (custom.get? key).getD ((Settings.defaultTypes.lookup key).getD .null)
  checkChoice (value "int_type") intTypes .badIntType
  checkChoice (value "float_type") floatTypes .badFloatType
  let overrides ←
    match custom.get? "type_overrides" with
    | some (.object members) => .ok (.object members)
    | some other =>
      if other.truthy then .error (Settings.LoadError.config .badOverrides) else .ok (.object [])
    | none => .ok (.object [])
  return {
    stringType := value "string_type"
    intType := value "int_type"
    floatType := value "float_type"
    boolType := value "bool_type"
    dynamicType := value "dynamic_type"
    hostHandleType := value "host_handle_type"
    hostImport := value "host_import"
    overrides }

/-- The type settings of all settings. -/
def ofSettings (settings : Settings) : Except Settings.LoadError TypeSettings :=
  match settings.customMembers with
  | .ok custom => ofMembers custom
  | .error fault => .error (.setting fault)

/-- Type settings from members that may not have unknown keys, unchecked. -/
def ofKnownOnly (members : Members) : Except UseFault TypeSettings := do
  if let some (key, _) := members.find? fun member => !keys.contains member.1 then
    throw (.unknownSetting key)
  let defaults : TypeSettings := {}
  let value := fun key (default : Json) => (members.get? key).getD default
  return {
    stringType := value "string_type" defaults.stringType
    intType := value "int_type" defaults.intType
    floatType := value "float_type" defaults.floatType
    boolType := value "bool_type" defaults.boolType
    dynamicType := value "dynamic_type" defaults.dynamicType
    hostHandleType := value "host_handle_type" defaults.hostHandleType
    hostImport := value "host_import" defaults.hostImport
    overrides := value "type_overrides" defaults.overrides }

/-- The type expression of a primitive type. -/
def primitive (types : TypeSettings) : Primitive → Json
  | .text => types.stringType
  | .integer => types.intType
  | .float => types.floatType
  | .boolean => types.boolType

/-- The imports that a type expression needs. -/
def importsFor (types : TypeSettings) (name : Json) : Except UseFault (List Json) :=
  if !types.hostImport.truthy then .ok []
  else do
    let name ← name.textFor "lstrip"
    if mentionsHost name then return [← types.hostImport.hashed] else return []

/-- The type of a type expression. -/
def typeOf (types : TypeSettings) (name : Json) : Except UseFault BindingType := do
  return { name, imports := ← types.importsFor name }

/-- The handle for a host object of unknown type. -/
def dynamic (types : TypeSettings) : Except UseFault BindingType := do
  return { ← types.typeOf types.dynamicType with isDynamic := true }

/-- The handle that every generated structure wraps. -/
def hostHandle (types : TypeSettings) : Except UseFault BindingType :=
  types.typeOf types.hostHandleType

/-- The type expression that is set for a single tag. Where the setting is no object, a tag is still
looked for in it, and then asked for by its place. -/
def override? (types : TypeSettings) (tag : Json) : Except UseFault (Option Json) :=
  match types.overrides, tag with
  | .object members, _ => do return (← tag.hashed).string?.bind (Members.get? members)
  | .array items, _ => if tag.isAmong items then (Json.itemAt items tag).map some else .ok none
  | .string text, .string part =>
    if Text.occursIn part.toList text.toList then .error (.asTextIndex tag.kindName) else .ok none
  | .string _, _ => .error (.asPart tag.kindName)
  | other, _ => .error (.notContainer other.kindName)

/-- The remark on a malformed type. -/
def malformedRemark : Json := .string "Malformed type field, using dynamic handle"

/-- The type of a basic tag, which may be a value of any kind. Null stands for a malformed type. -/
def basicTypeOf (types : TypeSettings) (tag : Json) : Except UseFault BindingType := do
  if tag = .null then return (← types.dynamic).withHint malformedRemark
  match ← types.override? tag with
  | some name => types.typeOf name
  | none =>
    match (← tag.hashed).string?.bind Primitive.ofTag? with
    | some primitive => return { name := types.primitive primitive }
    | none => types.dynamic

/-- The type of a basic tag. Nothing stands for a malformed type. -/
def basicType (types : TypeSettings) : Option String → Except UseFault BindingType
  | some tag => types.basicTypeOf (.string tag)
  | none => types.basicTypeOf .null

end TypeSettings

end HostBindings
