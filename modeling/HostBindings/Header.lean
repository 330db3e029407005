import HostBindings.Destination
import HostBindings.Generator

/-!
# Headers and whole files

A generated file begins with a notice, the package clause and the imports. A unit becomes one file:
its header and its sections.

## Main definitions

* `Generator.fileHeader` — the header of a file
* `Generator.renderUnit` — the text of a unit
-/

namespace HostBindings.Generator

open Api (Info)

/-- The lines of the notice: where the file comes from, and the metadata of the package. -/
def noticeLines (generator : Generator) (source : Json) (metadata : Option Info) :
    List String :=
  let origin := if source.truthy then s!" from {source.text}" else ""
  let details :=
    match metadata with
    | some info =>
      if generator.settings.commentsOn then
        (if info.version = "" then [] else [s!"Version: {info.version}"]) ++
          (if info.repoUrl = "" then [] else [s!"Repository: {info.repoUrl}"]) ++
          (if info.websiteUrl = "" then [] else [s!"Website: {info.websiteUrl}"])
      else []
    | none => []
  s!"Code generated by api-bindgen{origin}. DO NOT EDIT." :: details

/-- The header of a file: its notice, its package and its imports in order. -/
def fileHeader (generator : Generator) (package : Json) (imports : List Json)
    (source : Json := .string "") (metadata : Option Info := none) :
    Except HeaderFault String := do
  let sorted ← (Json.sort imports).mapError HeaderFault.imports
  let header := generator.templates.render "file_header.go.j2"
    [("notice", .array ((generator.noticeLines source metadata).map .string)),
      ("package_name", package), ("imports", .array sorted)]
  header.mapError HeaderFault.template

/-- A text without the line feeds at its end. -/
def withoutFinalLineFeeds (text : String) : String :=
  String.ofList (Text.trimRightNewlines text.toList)

/-- The text of a unit: its header, a blank line, and its sections. -/
def renderUnit (generator : Generator) (unit : DeclarationUnit) (metadata : Option Info) :
    Except HeaderFault String := do
  let header ← generator.fileHeader generator.settings.packageName unit.imports unit.source
    metadata
  return withoutFinalLineFeeds header ++ "\n\n" ++ unit.body ++ "\n"

end HostBindings.Generator
