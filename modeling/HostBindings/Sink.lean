import HostBindings.Code
import HostBindings.Json.Order
import HostBindings.Text.Blank

/-!
# Sinks and units

The text of a block is held back in a sink until the block is done; then it is handed over as a
whole, or dropped. A unit gathers the sections of several blocks for one file.

## Main definitions

* `Sink` — the text and the imports of one block; `Sink.write?`, `Sink.record`, `Sink.addImport`
* `Section`, `DeclarationUnit` — committed text; `DeclarationUnit.take` hands a sink over
* `Section.names`, `DeclarationUnit.names` — what the committed text declares
-/

namespace HostBindings

/-- The text and the imports of one block. -/
structure Sink where
  /-- The name of the block. -/
  blockName : String
  /-- The text so far. -/
  text : String := ""
  /-- The declarations that the text was made of, in order. -/
  declarations : List Code.Declaration := []
  /-- The imports so far, each once. -/
  imports : List Json := []
  /-- Whether the text is neither handed over nor dropped yet. -/
  isOpen : Bool := true
  deriving DecidableEq

/-- A list with an item added, unless it is there already. -/
def insertOnce [BEq α] (items : List α) (item : α) : List α :=
  if items.contains item then items else items ++ [item]

/-- Lists united, each item once. -/
def unite [BEq α] (items more : List α) : List α :=
  more.foldl insertOnce items

namespace Sink

/-- The sink with text added; nothing if it is closed. -/
def write? (sink : Sink) (text : String) : Option Sink :=
  if sink.isOpen then some { sink with text := sink.text ++ text } else none

/-- The sink with a declaration noted whose text was added. -/
def record (sink : Sink) (declaration : Code.Declaration) : Sink :=
  { sink with declarations := sink.declarations ++ [declaration] }

/-- The sink with an import added. -/
def addImport (sink : Sink) (path : Json) : Sink :=
  { sink with imports := Json.addOnce sink.imports path }

/-- The sink after its text was handed over or dropped. -/
def close (sink : Sink) : Sink := { sink with isOpen := false }

end Sink

/-- The text of one block in a unit. -/
structure Section where
  /-- The name of the block. -/
  blockName : String
  /-- The text. -/
  text : String
  /-- The declarations that the text was made of, in order. -/
  declarations : List Code.Declaration := []
  deriving DecidableEq

/-- The names that the text of a block declares, in order. -/
def Section.names (entry : Section) : List String := entry.declarations.flatMap (·.names)

/-- The generated text of one document. -/
structure DeclarationUnit where
  /-- The name of the document. -/
  source : Json := .string ""
  /-- The sections, in the order in which they were committed. -/
  sections : List Section := []
  /-- The imports of all sections, each once. -/
  imports : List Json := []
  deriving DecidableEq, Inhabited

namespace DeclarationUnit

/-- The unit with the text of a sink committed. -/
def commit (unit : DeclarationUnit) (sink : Sink) : DeclarationUnit :=
  { unit with
    sections := unit.sections ++ [⟨sink.blockName, sink.text, sink.declarations⟩]
    imports := Json.unite unit.imports sink.imports }

/-- A sink handed over to a unit. Only an open sink commits its text, and is closed by it. -/
def take (unit : DeclarationUnit) (sink : Sink) : Sink × DeclarationUnit :=
  if sink.isOpen then (sink.close, unit.commit sink) else (sink, unit)

/-- The names of the committed blocks. -/
def blockNames (unit : DeclarationUnit) : List String := unit.sections.map (·.blockName)

/-- The names that the committed text declares, in order. -/
def names (unit : DeclarationUnit) : List String := unit.sections.flatMap (·.names)

/-- The committed text: the sections that are not empty, with a blank line between each two. -/
def body (unit : DeclarationUnit) : String :=
  let texts := (unit.sections.filter (·.text != "")).map fun entry =>
    String.ofList (Text.trimNewlines entry.text.toList)
  "\n\n".intercalate texts

end DeclarationUnit

end HostBindings
