import HostBindings.Api.Shape
import HostBindings.Json.Basic

/-!
# Descriptions as records

A description as JSON values, for other programs: an object for every entity, with everything that
is known of it, its kind included.

## Main definitions

* `RawType.record`, `Property.record`, `Event.record`, `Method.record`, `Block.record` — entities
* `Shape.record` — shapes, as nested lists
-/

namespace HostBindings.Api

/-- Texts as a JSON array. -/
def textRecords (texts : List String) : Json := .array (texts.map .string)

/-- A tag, or null. -/
def tagRecord : Option String → Json
  | some tag => .string tag
  | none => .null

/-- The word for the form of a type. -/
def RawType.form : RawType → String
  | .absent => "absent"
  | .single _ => "single"
  | .union .. => "list"
  | .malformed => "malformed"

/-- The members of a type's record. -/
def RawType.members (rawType : RawType) : Json.Members :=
  [("form", .string rawType.form), ("names", textRecords rawType.names),
    ("tag", tagRecord rawType.tag)]

/-- The members that the records of all entities have. -/
def Info.members (info : Info) : Json.Members :=
  [("name", .string info.name), ("raw_type", .object info.rawType.members),
    ("description", .string info.description), ("platforms", textRecords info.platforms),
    ("process", .object [("main", .bool info.processes.main),
      ("renderer", .bool info.processes.renderer)]),
    ("required", .bool info.required), ("version", .string info.version),
    ("repo_url", .string info.repoUrl), ("website_url", .string info.websiteUrl),
    ("slug", .string info.slug), ("kind", .string info.kind.word)]

/-- The record of a member of an enumeration. -/
def PossibleValue.record (value : PossibleValue) : Json :=
  .object (value.info.members ++
    [("value", .string value.value), ("literal", .string value.literal)])

mutual
/-- The record of a property. -/
def Property.record : Property → Json
  | ⟨info, properties, parameters, possibleValues⟩ =>
    .object (info.members ++
      [("properties", .array (propertyRecords properties)),
        ("parameters", .array (propertyRecords parameters)),
        ("possible_values", .array (possibleValues.map PossibleValue.record))])

/-- The records of properties. -/
def propertyRecords : List Property → List Json
  | [] => []
  | property :: rest => property.record :: propertyRecords rest
end

/-- The record of an event. -/
def Event.record (event : Event) : Json :=
  .object (event.info.members ++ [("returns", .array (propertyRecords event.returns))])

/-- The record of a method. -/
def Method.record (method : Method) : Json :=
  .object (method.info.members ++
    [("signature", .string method.signature),
      ("parameters", .array (propertyRecords method.parameters)),
      ("returns", (method.returns.map Property.record).getD .null)])

/-- The record of a block. -/
def Block.record (block : Block) : Json :=
  .object (block.info.members ++
    [("events", .array (block.events.map Event.record)),
      ("properties", .array (propertyRecords block.properties)),
      ("methods", .array (block.methods.map Method.record)),
      ("instance_name", .string block.instanceName),
      ("instance_events", .array (block.instanceEvents.map Event.record)),
      ("instance_properties", .array (propertyRecords block.instanceProperties)),
      ("instance_methods", .array (block.instanceMethods.map Method.record)),
      ("constructor_method", (block.constructorMethod.map Method.record).getD .null),
      ("static_methods", .array (block.staticMethods.map Method.record))])

mutual
/-- The record of a shape. -/
def Shape.record : Shape → Json
  | ⟨tag, properties, parameters, values⟩ =>
    .array [.string (Kind.ofTag tag).word, tagRecord tag, .array (shapeRecords properties),
      .array (shapeRecords parameters),
      .array (values.map fun (name, literal) => textRecords [name, literal])]

/-- The records of named shapes. -/
def shapeRecords : List (String × Shape) → List Json
  | [] => []
  | (name, shape) :: rest => .array [.string name, shape.record] :: shapeRecords rest
end

end HostBindings.Api
