import HostBindings.Json.Order

/-!
# Types of the generated language

A basic tag of the description stands for a type of the generated language: the primitive tags for
primitive types, any other tag for an opaque handle of a host object. Type expressions are settings,
and so are imports; both may be values of any kind.

## Main definitions

* `BindingType` — a type with what it needs
* `BindingType.allImports` — what a list of types needs
* `Primitive`, `Primitive.ofTag?` — the primitive types, and the tags that stand for them
* `mentionsHost` — type expressions of the host package
-/

namespace HostBindings

/-- A type of the generated language. -/
structure BindingType where
  /-- The type expression. -/
  name : Json
  /-- The imports it needs. -/
  imports : List Json := []
  /-- Whether it is the handle that stands for a type that is not known. -/
  isDynamic : Bool := false
  /-- Remarks on how it was found. -/
  hints : List Json := []
  deriving DecidableEq

namespace BindingType

/-- A type with one more remark. -/
def withHint (type : BindingType) (hint : Json) : BindingType :=
  { type with hints := type.hints ++ [hint] }

/-- The imports that a list of types needs, each once, in order of first need. -/
def allImports (types : List BindingType) : List Json :=
  Json.distinct (types.flatMap (·.imports))

end BindingType

/-- The primitive types. -/
inductive Primitive where
  | text
  | integer
  | float
  | boolean
  deriving DecidableEq, Repr

/-- The primitive type that a tag stands for. An entity without a tag is a text. -/
def Primitive.ofTag? (tag : String) : Option Primitive :=
  if ["", "String", "STRING"].contains tag then some .text
  else if ["Integer", "INTEGER"].contains tag then some .integer
  else if ["Number", "NUMBER", "Double", "DOUBLE", "Float", "FLOAT"].contains tag then some .float
  else if ["Boolean", "BOOLEAN"].contains tag then some .boolean
  else none

/-- Whether a type expression begins, behind its pointers and brackets, with a name of the host
package. -/
def mentionsHost (name : String) : Bool :=
  let inner := name.toList.dropWhile fun c => c == '*' || c == '[' || c == ']'
  "js.".toList.isPrefixOf inner

end HostBindings
