import HostBindings.Api.Reading
import HostBindings.Registry

/-!
# What the command shows

What goes to the terminal, before it is laid out: lines with markup, tables, panels and code. Laying
it out is up to the console, which may refuse what it is given, such as a text with brackets in it
that are no markup.

## Main definitions

* `ScreenItem` — one thing that is shown
* `Console` — what can be shown
* `languageTable`, `quickStart`, `languagePanel`, `settingsTable` — what is shown of languages
-/

namespace HostBindings.CommandLine

/-- One thing that is shown. -/
inductive ScreenItem where
  /-- A line, with markup in brackets. -/
  | line (text : String)
  /-- A table. -/
  | table (title : String) (columns : List String) (rows : List (List String))
  /-- A text in a frame. -/
  | panel (title text : String)
  /-- Code of a language. -/
  | code (text language : String)
  deriving DecidableEq, Repr

/-- An empty line. -/
def ScreenItem.blank : ScreenItem := .line ""

/-- A console, by what it refuses. -/
structure Console where
  /-- Why a thing is not shown, if it is refused. -/
  refusal? : ScreenItem → Option String := fun _ => none
  /-- Why a line is not shown while a document is in work, if it is refused. -/
  progressRefusal? : String → Option String := fun _ => none

/-- A console that shows all it is given. -/
abbrev Console.plain : Console := {}

/-! ### Languages -/

/-- A word with a capital first letter. -/
def headWord (word : String) : String := Api.capitalized word

/-- The row of a language. -/
def languageRow (entry : String × LanguageInfo) : List String :=
  let (name, info) := entry
  let aliases :=
    if info.aliases.isEmpty then "[dim]none[/dim]" else ", ".intercalate info.aliases
  [s!"🔧 {name}", info.fileExtension, info.backend.name, aliases]

/-- The table of languages. -/
def languageTable (languages : List (String × LanguageInfo)) : ScreenItem :=
  .table "📋 Supported Languages" ["Language", "Extension", "Generator Class", "Aliases"]
    (languages.map languageRow)

/-- How the command is used. -/
def quickStart : ScreenItem :=
  .panel "💡 Quick Start"
    ("[bold]Usage:[/bold] api-bindgen [dim]schema.json[/dim] -o [cyan]DIR[/cyan]\n" ++
      "[bold]Info:[/bold] api-bindgen --language-info [cyan]LANGUAGE[/cyan]")

/-- The description of a language. -/
def languagePanel (info : LanguageInfo) : ScreenItem :=
  let templates := ", ".intercalate info.templates
  let lines :=
    [s!"[bold]Language:[/bold] {info.name}",
      s!"[bold]File Extension:[/bold] {info.fileExtension}",
      s!"[bold]Generator Class:[/bold] {info.backend.name}",
      s!"[bold]Module:[/bold] {info.backend.moduleName}",
      s!"[bold]Templates:[/bold] {templates}"] ++
    if info.aliases.isEmpty then []
    else ["[bold]Aliases:[/bold] " ++ ", ".intercalate info.aliases]
  .panel s!"🔧 {headWord info.name} Generator" ("\n".intercalate lines)

/-- The settings of a language by default. -/
def settingsTable (settings : Settings) : ScreenItem :=
  let field := settings.hostField
  let custom :=
    match settings.custom with
    | .object members =>
      (sortTexts (members.map (·.1))).map fun key =>
        [key, ((Json.Members.get? members key).getD .null).text]
    | _ => []
  .table "⚙️  Default Configuration" ["Setting", "Value"]
    ([["Package Name", settings.packageName.text],
      ["Add Comments", settings.addComments.text],
      ["Generate Tags", settings.generateTags.text],
      ["Tag Key", settings.tagKey.text],
      ["Host Handle Field", if field = "" then "(embedded)" else field],
      ["Event Literal Mode", settings.eventLiteralMode.text]] ++ custom)

end HostBindings.CommandLine
