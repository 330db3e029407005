import HostBindings.Api.Basic

/-!
# Shapes

The shape of a property is what its declaration depends on: its tag, and the names and shapes of
what it contains. Two properties of one name and one shape are declared alike, so one generated
type serves both.

## Main definitions

* `Api.Shape` — shapes, with decidable equality
* `Property.shape` — the shape of a property
-/

namespace HostBindings.Api

/-- What the declaration of a property depends on. -/
structure Shape where
  /-- The tag, which determines the kind. -/
  tag : Option String
  /-- The fields, by name and shape. -/
  properties : List (String × Shape)
  /-- The parameters, by name and shape. -/
  parameters : List (String × Shape)
  /-- The members of an enumeration, by name and literal. -/
  values : List (String × String)

namespace Shape

/-- The kind of a shape. -/
def kind (shape : Shape) : Kind := Kind.ofTag shape.tag

mutual
/-- Whether two shapes are the same. -/
def same : Shape → Shape → Bool
  | ⟨tag, properties, parameters, values⟩, ⟨tag', properties', parameters', values'⟩ =>
    tag == tag' && sameAll properties properties' && sameAll parameters parameters' &&
      values == values'

/-- Whether two lists of named shapes are the same. -/
def sameAll : List (String × Shape) → List (String × Shape) → Bool
  | [], [] => true
  | (name, shape) :: rest, (name', shape') :: rest' =>
    name == name' && same shape shape' && sameAll rest rest'
  | _, _ => false
end

mutual
theorem same_iff : ∀ a b : Shape, same a b = true ↔ a = b
  | ⟨tag, properties, parameters, values⟩, ⟨tag', properties', parameters', values'⟩ => by
    simp [same, sameAll_iff properties properties', sameAll_iff parameters parameters',
      and_assoc]

theorem sameAll_iff : ∀ a b : List (String × Shape), sameAll a b = true ↔ a = b
  | [], [] => by simp [sameAll]
  | [], _ :: _ => by simp [sameAll]
  | _ :: _, [] => by simp [sameAll]
  | (name, shape) :: rest, (name', shape') :: rest' => by
    simp [sameAll, same_iff shape shape', sameAll_iff rest rest']
end

instance : DecidableEq Shape := fun a b =>
  decidable_of_iff _ (same_iff a b)

end Shape

mutual
/-- The shape of a property. -/
def Property.shape : Property → Shape
  | ⟨info, properties, parameters, possibleValues⟩ =>
    { tag := info.rawType.tag
      properties := namedShapes properties
      parameters := namedShapes parameters
      values := possibleValues.map fun value => (value.info.name, value.literal) }

/-- The names and shapes of a list of properties. -/
def namedShapes : List Property → List (String × Shape)
  | [] => []
  | property :: rest => (property.info.name, property.shape) :: namedShapes rest
end

end HostBindings.Api
