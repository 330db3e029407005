import HostBindings.Json.Use

/-!
# The described host interface

A schema document describes blocks: modules, classes and structures of a host, with their events,
properties and methods. This file has the tree of such a description, as it is after reading and
before any binding is made for it.

## Main definitions

* `Api.RawType`, `RawType.tag` — the type given for an entity, and the one tag it resolves to
* `Api.Kind`, `Kind.ofTag`, `Info.kind` — the kind that a tag names
* `Api.Info` — what every entity has: a name, a type, comments, where it is available
* `Api.PossibleValue`, `Api.Property`, `Api.Event`, `Api.Method`, `Api.Block`, `Api.Schema`
-/

namespace HostBindings.Api

/-- The type given for an entity. -/
inductive RawType where
  /-- No type is given. -/
  | absent
  /-- One tag. -/
  | single (tag : String)
  /-- A union of tags. -/
  | union (first : String) (rest : List String)
  /-- Something that is neither a tag nor a union of tags. -/
  | malformed
  deriving DecidableEq, Repr, Inhabited

namespace RawType

/-- The tag a type resolves to: empty if no type is given, the first member of a union, nothing if
the type is malformed. -/
def tag : RawType → Option String
  | absent => some ""
  | single tag => some tag
  | union first _ => some first
  | malformed => none

/-- The tags of a type. -/
def names : RawType → List String
  | absent => []
  | single tag => [tag]
  | union first rest => first :: rest
  | malformed => []

/-- Whether a type is malformed. -/
def isMalformed : RawType → Bool
  | malformed => true
  | _ => false

theorem tag_eq_none_iff (rawType : RawType) : rawType.tag = none ↔ rawType.isMalformed = true := by
  cases rawType <;> simp [tag, isMalformed]

end RawType

/-- The kinds of entities. -/
inductive Kind where
  | hostModule
  | hostClass
  | hostStructure
  | hostObject
  | function
  | basic
  deriving DecidableEq, Repr, Inhabited

namespace Kind

/-- The word for a kind, which is also the tag that names it. -/
def word : Kind → String
  | hostModule => "Module"
  | hostClass => "Class"
  | hostStructure => "Structure"
  | hostObject => "Object"
  | function => "Function"
  | basic => "Basic"

/-- The kinds that a tag can name. -/
def named : List Kind := [hostModule, hostClass, hostStructure, hostObject, function]

/-- The kind that a resolved tag names. Every other tag, and a malformed type, is basic. -/
def ofTag : Option String → Kind
  | none => basic
  | some tag => (named.find? (·.word == tag)).getD basic

/-- The kind that a tag of any kind of value names. -/
def ofValue (tag : Json) : Except UseFault Kind := do
  return ofTag (← tag.hashed).string?

end Kind

/-- The host processes that an entity is marked for. -/
structure Processes where
  /-- Marked for the main process. -/
  main : Bool := false
  /-- Marked for renderer processes. -/
  renderer : Bool := false
  deriving DecidableEq, Repr, Inhabited

namespace Processes

/-- Whether there is a mark at all. -/
def restricted (processes : Processes) : Bool :=
  processes.main || processes.renderer

/-- The names, besides those of the two marks, that a set of marks answers to, whatever it holds. No
process can be called by them. -/
def generalNames : List String :=
  ["restricted", "__annotations__", "__class__", "__dataclass_fields__", "__dataclass_params__",
    "__delattr__", "__dict__", "__dir__", "__doc__", "__eq__", "__format__", "__ge__",
    "__getattribute__", "__getstate__", "__gt__", "__init__", "__init_subclass__", "__le__",
    "__lt__", "__match_args__", "__module__", "__ne__", "__new__", "__reduce__",
    "__reduce_ex__", "__repr__", "__setattr__", "__sizeof__", "__str__", "__subclasshook__"]

/-- Whether an entity with these marks belongs to a process. One without marks belongs to all, and
to the process named by the empty text everything belongs. -/
def allow (processes : Processes) (process : String) : Bool :=
  if process = "" || !processes.restricted then true
  else if process = "main" then processes.main
  else if process = "renderer" then processes.renderer
  else generalNames.contains process

/-- Whether an entity with these marks belongs to a process given by a value of any kind. One that
is switched off names no process. -/
def allowValue (processes : Processes) (process : Json) : Except UseFault Bool :=
  if !process.truthy || !processes.restricted then .ok true
  else
    match process with
    | .string name => .ok (processes.allow name)
    | other => .error (.asMarkName other.kindName)

end Processes

/-- What every entity of a description has. -/
structure Info where
  /-- The name in the host. -/
  name : String := ""
  /-- The type. -/
  rawType : RawType := .absent
  /-- The description, for comments. -/
  description : String := ""
  /-- The platforms it is limited to, for comments. -/
  platforms : List String := []
  /-- The processes it is marked for. -/
  processes : Processes := {}
  /-- Whether it has to be given. -/
  required : Bool := false
  /-- The version of the package. -/
  version : String := ""
  /-- The repository of the package. -/
  repoUrl : String := ""
  /-- The website of the package. -/
  websiteUrl : String := ""
  /-- The short name in addresses. -/
  slug : String := ""
  deriving DecidableEq, Repr, Inhabited

namespace Info

/-- The kind of an entity. -/
def kind (info : Info) : Kind := Kind.ofTag info.rawType.tag

/-- Whether an entity carries package metadata. -/
def hasMetadata (info : Info) : Bool :=
  info.version != "" || info.repoUrl != "" || info.websiteUrl != ""

end Info

/-- One member of an enumeration. -/
structure PossibleValue where
  /-- The common part. -/
  info : Info := {}
  /-- The value in the host. -/
  value : String := ""
  deriving DecidableEq, Repr, Inhabited

/-- The value that generated code writes for a member: the name stands in for an empty value. -/
def PossibleValue.literal (member : PossibleValue) : String :=
  if member.value = "" then member.info.name else member.value

/-- A field, a parameter or a nested composite. -/
structure Property where
  /-- The common part. -/
  info : Info := {}
  /-- The fields of a composite. -/
  properties : List Property := []
  /-- The parameters of a function. -/
  parameters : List Property := []
  /-- The members of an enumeration. -/
  possibleValues : List PossibleValue := []
  deriving Inhabited

namespace Property

/-- The name of a property. -/
def name (property : Property) : String := property.info.name

/-- The kind of a property. -/
def kind (property : Property) : Kind := property.info.kind

/-- The tag of a property. -/
def tag (property : Property) : Option String := property.info.rawType.tag

/-- Whether a property is an enumeration. -/
def isEnum (property : Property) : Bool := !property.possibleValues.isEmpty

end Property

/-- A named notification and its payload. -/
structure Event where
  /-- The common part. -/
  info : Info := {}
  /-- The payload. -/
  returns : List Property := []
  deriving Inhabited

/-- A callable member. -/
structure Method where
  /-- The common part. -/
  info : Info := {}
  /-- The signature as the description writes it. -/
  signature : String := ""
  /-- The parameters. -/
  parameters : List Property := []
  /-- The result, if there is one. -/
  returns : Option Property := none
  deriving Inhabited

/-- A top-level entity of a description. -/
structure Block where
  /-- The common part. -/
  info : Info := {}
  /-- The events of a module. -/
  events : List Event := []
  /-- The properties of a module or structure. -/
  properties : List Property := []
  /-- The methods of a module. -/
  methods : List Method := []
  /-- The name of an instance of a class. -/
  instanceName : String := ""
  /-- The events of a class. -/
  instanceEvents : List Event := []
  /-- The properties of a class. -/
  instanceProperties : List Property := []
  /-- The methods of a class. -/
  instanceMethods : List Method := []
  /-- The constructor of a class. -/
  constructorMethod : Option Method := none
  /-- The methods of a class itself. -/
  staticMethods : List Method := []
  deriving Inhabited

namespace Block

/-- The name of a block. -/
def name (block : Block) : String := block.info.name

/-- The kind of a block. -/
def kind (block : Block) : Kind := block.info.kind

end Block

/-- The blocks of one document. -/
structure Schema where
  /-- The name of the document; its text is used in messages and in the headers of the output. -/
  source : Json
  /-- The blocks in document order. -/
  blocks : List Block
  deriving Inhabited

/-- The first block that carries package metadata. -/
def Schema.metadataBlock? (schema : Schema) : Option Block :=
  schema.blocks.find? (·.info.hasMetadata)

end HostBindings.Api
