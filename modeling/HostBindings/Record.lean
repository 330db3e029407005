import HostBindings.Api.Record
import HostBindings.CommandLine.Screen
import HostBindings.Generation
import HostBindings.Settings.Types

/-!
# Results as records

What this library answers, as JSON values, for other programs.

## Main definitions

* `BindingType.record`, `Section.record`, `RunReport.record`, `Generation.record`
* `Pending.record`, `LanguageInfo.record`
* `LogRecord.record`, `ScreenItem.record`
-/

namespace HostBindings

open Api (textRecords)

/-- The record of a type. -/
def BindingType.record (type : BindingType) : Json :=
  .object [("name", type.name), ("imports_needed", .array type.imports),
    ("is_dynamic", .bool type.isDynamic), ("validation_hints", .array type.hints)]

/-- The record of the text of a block. -/
def Section.record (entry : HostBindings.Section) : Json :=
  .object [("block_name", .string entry.blockName), ("text", .string entry.text)]

/-- The records of the sections of a unit. -/
def DeclarationUnit.sectionRecords (unit : DeclarationUnit) : Json :=
  .array (unit.sections.map Section.record)

/-- The record of what became of a block. -/
def Outcome.record (outcome : Outcome) : Json :=
  .array [.string outcome.name, .string outcome.result.status, .string outcome.result.reason,
    .int outcome.result.nested]

/-- The record of a report. -/
def RunReport.record (report : RunReport) : Json :=
  .object [("source", report.source),
    ("outcomes", .array (report.outcomes.map Outcome.record)),
    ("warnings", textRecords report.warnings), ("ok", .bool report.ok),
    ("summary", .string report.summary)]

/-- The record of a generation. -/
def Generation.record (generation : Generation) : Json :=
  .object [("success", .bool true), ("code", .string generation.code),
    ("warnings", textRecords generation.warnings), ("metadata", .object generation.metadata),
    ("error_message", .string ""), ("exception", .null), ("report", generation.report.record)]

/-- The record of a declaration that is queued or written. -/
def Pending.record (pending : Pending) : Json :=
  let kind :=
    match pending.kind with
    | .composite => "type"
    | .constants => "const"
  textRecords [kind, pending.name]

/-- The record of a language. -/
def LanguageInfo.record (info : LanguageInfo) : Json :=
  .object [("name", .string info.name), ("class", .string info.backend.name),
    ("file_extension", .string info.fileExtension), ("aliases", textRecords info.aliases),
    ("module", .string info.backend.moduleName), ("templates", textRecords info.templates)]

/-- The record of an entry of the log. -/
def LogRecord.record (entry : LogRecord) : Json :=
  textRecords [entry.level.name, entry.message]

/-- The record of something that is shown. -/
def CommandLine.ScreenItem.record : CommandLine.ScreenItem → Json
  | .line text => .string text
  | .table title columns rows =>
    .object [("table", .string title), ("columns", textRecords columns),
      ("rows", .array (rows.map textRecords))]
  | .panel title text => .object [("panel", .string title), ("text", .string text)]
  | .code text language => .object [("syntax", .string text), ("lexer", .string language)]

end HostBindings
