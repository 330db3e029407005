import HostBindings.Template.Basic
import HostBindings.Text.Lines

/-!
# The templates of the generated language

The header of a file, a structure, a block of constants, an enumeration and a function type. Each
declaration begins with its comment lines.

## Main definitions

* `Template.Library` — named templates; `Library.builtin` the five of this file
* `Library.render` — a template looked up by its name and rendered
* `Library.renderValues` — the same where name and context are values of any kind
-/

namespace HostBindings.Template

/-- Lines, each behind `lead` and ended by a line feed. -/
def lineLoop (collection lead : String) : Piece :=
  .each "line" collection [.text lead, .value (.var "line"), .text "\n"]

/-- The notice, the package clause and the imports of a file. -/
def fileHeader : Template :=
  [lineLoop "notice" "// ",
    .text "\npackage ", .value (.var "package_name"), .text "\n",
    .choose (.truthy "imports")
      [.text "\n",
        .choose (.lengthIs "imports" 1)
          [.text "import ", .value (.quotedFirst "imports"), .text "\n"]
          [.text "import (\n",
            .each "path" "imports" [.text "\t", .value (.quotedVar "path"), .text "\n"],
            .text ")\n"]]
      []]

/-- A structure with one field line each. -/
def structType : Template :=
  [lineLoop "comments" "", .text "type ", .value (.var "struct_name"), .text " struct \x7b\n",
    lineLoop "lines" "\t", .text "\x7d"]

/-- A block of constants. -/
def constBlock : Template :=
  [lineLoop "comments" "", .text "const (\n", lineLoop "lines" "\t", .text ")"]

/-- A named type with its constants. -/
def enumeration : Template :=
  [lineLoop "comments" "", .text "type ", .value (.var "type_name"), .text " ",
    .value (.var "base_type"), .text "\n\nconst (\n", lineLoop "lines" "\t", .text ")"]

/-- A named function type. -/
def functionType : Template :=
  [lineLoop "comments" "", .text "type ", .value (.var "type_name"), .text " ",
    .value (.var "signature")]

/-- Templates by name. -/
abbrev Library := List (String × Template)

namespace Library

/-- The templates of the generated language. -/
def builtin : Library :=
  [("const_block.go.j2", constBlock), ("enum.go.j2", enumeration),
    ("file_header.go.j2", fileHeader), ("func_type.go.j2", functionType),
    ("struct.go.j2", structType)]

/-- A library without templates. -/
def empty : Library := []

/-- The names of the templates. -/
def names (library : Library) : List String := library.map (·.1)

/-- Whether there is a template of this name. -/
def has (library : Library) (name : String) : Bool := library.names.contains name

end Library

/-- A template that could not be rendered. -/
structure RenderError where
  /-- The name of the template. -/
  template : String
  /-- The fault. -/
  fault : Fault
  deriving DecidableEq, Repr

/-- The wording of a failed rendering. -/
def RenderError.message (error : RenderError) : String :=
  s!"Failed to render template {error.template}: {error.fault.message}"

namespace Library

/-- The name that a path of steps comes to: empty steps and steps to the same place do not count.
A path with a step upwards comes to none. -/
def plainName? (name : String) : Option String :=
  let steps := (Text.splitOn '/' name.toList).filter fun step => step ≠ [] ∧ step ≠ ['.']
  if steps.contains ['.', '.'] then none else some (String.ofList (['/'].intercalate steps))

/-- The template of a name, or of the name that it comes to. -/
def find? (library : Library) (name : String) : Option Template :=
  match library.lookup name with
  | some template => some template
  | none => (plainName? name).bind fun plain => library.lookup plain

/-- The text of the template of this name. -/
def render (library : Library) (name : String) (context : Json.Members) :
    Except RenderError String :=
  match library.find? name with
  | none => .error ⟨name, .missing name⟩
  | some template =>
    match Template.render context template with
    | .ok text => .ok text
    | .error fault => .error ⟨name, fault⟩

/-- The fault of a name that is no text. Where there are no templates, every name that can be looked
up is only missing. -/
def nameFault (library : Library) (name : Json) : Fault :=
  if !name.isHashable then .value (.unhashable name.kindName)
  else if library.isEmpty then .missing name.text
  else .value (.lacks name.kindName "split")

/-- The text of the template that a value names, in the context that a value gives. -/
def renderValues (library : Library) (name context : Json) : Except RenderError String :=
  match name, context with
  | .string name, .object members =>
    if (library.find? name).isSome && (Json.Members.get? members "self").isSome then
      .error ⟨name, .reserved⟩
    else library.render name members
  | .string name, other =>
    .error ⟨name, if (library.find? name).isSome then .noContext other.kindName else .missing name⟩
  | other, _ => .error ⟨other.text, library.nameFault other⟩

end Library

end HostBindings.Template
