import HostBindings.Json.Display

/-!
# Generated code

What is declared for a block, before it is text: constants for events, structures, enumerations and
function types. A type in a declaration is either an expression of the settings or the name of
another declaration of the block.

## Main definitions

* `Code.TypeName`, `Code.Slot`, `Code.Signature`, `Code.Field`, `Code.Constant` — the parts
* `Code.Declaration` — what stands at the top level
* `Declaration.names`, `Declaration.uses` — the names it declares, and the ones it relies on
* `Declaration.template`, `Declaration.context` — how it becomes text
-/

namespace HostBindings.Code

/-- A type in generated code. -/
inductive TypeName where
  /-- A type expression of the settings. -/
  | basic (expression : Json)
  /-- The name of a nested declaration. -/
  | nested (name : String)
  deriving DecidableEq

namespace TypeName

/-- How a type is written. -/
def text : TypeName → String
  | basic expression => expression.text
  | nested name => name

/-- The declaration that a type relies on. -/
def uses : TypeName → List String
  | basic _ => []
  | nested name => [name]

end TypeName

/-- A name with its type: a field, a parameter or a result. -/
structure Slot where
  /-- The name. -/
  name : String
  /-- The type. -/
  type : TypeName
  deriving DecidableEq

/-- How a slot is written. -/
def Slot.text (slot : Slot) : String := slot.name ++ " " ++ slot.type.text

/-- The parameters and the result of a function. -/
structure Signature where
  /-- The parameters. -/
  parameters : List Slot
  /-- The result, if there is one. -/
  result? : Option Slot := none
  deriving DecidableEq

namespace Signature

/-- How a signature is written. Every parameter is followed by a comma. -/
def text (signature : Signature) : String :=
  let call := "func(" ++ " ".intercalate (signature.parameters.map (·.text ++ ",")) ++ ")"
  match signature.result? with
  | some result => call ++ " (" ++ result.text ++ ")"
  | none => call

/-- The slots of a signature. -/
def slots (signature : Signature) : List Slot :=
  signature.parameters ++ signature.result?.toList

/-- The declarations that a signature relies on. -/
def uses (signature : Signature) : List String :=
  signature.slots.flatMap (·.type.uses)

end Signature

/-- What a field holds. -/
inductive FieldType where
  /-- A value of a type. -/
  | value (type : TypeName)
  /-- A function. -/
  | function (signature : Signature)
  deriving DecidableEq

namespace FieldType

/-- How the type of a field is written. -/
def text : FieldType → String
  | value type => type.text
  | function signature => signature.text

/-- The declarations that the type of a field relies on. -/
def uses : FieldType → List String
  | value type => type.uses
  | function signature => signature.uses

end FieldType

/-- A field of a structure. -/
structure Field where
  /-- Its comment lines. -/
  comments : List String
  /-- Its name. -/
  name : String
  /-- What it holds. -/
  type : FieldType
  /-- The tag behind it, with the space before it; empty if it has none. -/
  tag : String
  deriving DecidableEq

namespace Field

/-- A field without its comments and its tag. -/
def text (field : Field) : String := field.name ++ " " ++ field.type.text

/-- The lines of a field. -/
def lines (field : Field) : List String := field.comments ++ [field.text ++ field.tag]

end Field

/-- The field for the handle of the host object. -/
structure Handle where
  /-- Its name; empty if the handle is embedded. -/
  field : String
  /-- Its type. -/
  type : Json
  deriving DecidableEq

/-- The line of a handle. -/
def Handle.line (handle : Handle) : Json :=
  if handle.field = "" then handle.type
  else .string (handle.field ++ " " ++ handle.type.text)

/-- A constant. -/
structure Constant where
  /-- Its comment lines. -/
  comments : List String
  /-- Its name. -/
  name : String
  /-- Its value, as it is written. -/
  literal : String
  deriving DecidableEq

namespace Constant

/-- A constant without its comments; `type?` is its type, if that is written. -/
def text (constant : Constant) (type? : Option String) : String :=
  match type? with
  | some type => s!"{constant.name} {type} = {constant.literal}"
  | none => s!"{constant.name} = {constant.literal}"

/-- The lines of a constant. -/
def lines (constant : Constant) (type? : Option String) : List String :=
  constant.comments ++ [constant.text type?]

end Constant

/-- A top-level declaration. -/
inductive Declaration where
  /-- The constants of events. -/
  | events (comments : List String) (constants : List Constant)
  /-- A structure around a handle of the host. -/
  | composite (comments : List String) (name : String) (handle : Handle) (fields : List Field)
  /-- A type with its constants. -/
  | enumeration (comments : List String) (name : String) (base : Json) (members : List Constant)
  /-- A function type. -/
  | function (comments : List String) (name : String) (signature : Signature)
  deriving DecidableEq

/-- Lines as a value of a template. -/
def linesValue (lines : List String) : Json := .array (lines.map .string)

namespace Declaration

/-- The name of the type that is declared; none for the constants of events. -/
def typeName? : Declaration → Option String
  | events .. => none
  | composite _ name .. | enumeration _ name .. | function _ name _ => some name

/-- The names that are declared, in order. -/
def names : Declaration → List String
  | events _ constants => constants.map (·.name)
  | composite _ name .. => [name]
  | enumeration _ name _ members => name :: members.map (·.name)
  | function _ name _ => [name]

/-- The declarations that a declaration relies on: those whose names are types of its fields,
parameters and results. -/
def uses : Declaration → List String
  | events .. | enumeration .. => []
  | composite _ _ _ fields => fields.flatMap (·.type.uses)
  | function _ _ signature => signature.uses

/-- The template of a declaration. -/
def template : Declaration → String
  | events .. => "const_block.go.j2"
  | composite .. => "struct.go.j2"
  | enumeration .. => "enum.go.j2"
  | function .. => "func_type.go.j2"

/-- The variables of the template of a declaration. -/
def context : Declaration → Json.Members
  | events comments constants =>
    [("comments", linesValue comments),
      ("lines", linesValue (constants.flatMap (·.lines none)))]
  | composite comments name handle fields =>
    [("comments", linesValue comments), ("struct_name", .string name),
      ("lines", .array (handle.line :: (fields.flatMap (·.lines)).map .string))]
  | enumeration comments name base members =>
    [("comments", linesValue comments), ("type_name", .string name), ("base_type", base),
      ("lines", linesValue (members.flatMap (·.lines (some name))))]
  | function comments name signature =>
    [("comments", linesValue comments), ("type_name", .string name),
      ("signature", .string signature.text)]

end Declaration

end HostBindings.Code
