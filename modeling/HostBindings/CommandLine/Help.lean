import HostBindings.CommandLine.Option

/-!
# Help

How the command is used, and what each option is for.

## Main definitions

* `Opt.about` — what an option is for
* `usageText`, `helpText` — how the command is used, in short and in full
-/

namespace HostBindings.CommandLine

/-- What the value of an option is called; empty for an option without value. -/
def Opt.valueName : Opt → String
  | .output => "DIR"
  | .config | .writeConfig | .logFile => "FILE"
  | .hostHandle | .package => "NAME"
  | .language | .languageInfo => "LANGUAGE"
  | .url => "URL"
  | .process => "PROCESS"
  | .logLevel => "LEVEL"
  | _ => ""

/-- What an option is for. -/
def Opt.about : Opt → String
  | .help => "Show this help message and exit"
  | .url => "URL to fetch a schema document from"
  | .output => "Output directory (default: print a single file to stdout)"
  | .language => "Target language for code generation (default: go)"
  | .config => "Configuration file path (JSON)"
  | .version => "Show the version and exit"
  | .package => "Package name"
  | .noComments => "Don't add comments to generated code"
  | .noTags => "Don't add source-name tags to struct fields"
  | .hostHandle => "Name of the host handle field (empty string embeds it)"
  | .perBlock => "Write every block to its own file and package"
  | .process => "Only generate blocks available in this process (main or renderer)"
  | .strictEvents => "Fail a block on suspicious event names instead of warning"
  | .writeConfig => "Write the effective configuration to FILE"
  | .listLanguages => "List supported languages and exit"
  | .languageInfo => "Show detailed info about a language and exit"
  | .logLevel => "Log level: DEBUG, INFO, WARNING or ERROR (default: WARNING)"
  | .logFile => "Also log to FILE"
  | .verbose => "Show generation metadata and all warnings"

/-- The entry of an option: its names with its value, and what it is for. -/
def Opt.entry (opt : Opt) : String :=
  let names := opt.names.map fun name =>
    if opt.takesValue then name ++ " " ++ opt.valueName else name
  "  " ++ ", ".intercalate names ++ "\n      " ++ opt.about

/-- How the command is used, in short. -/
def usageText : String := "usage: api-bindgen [OPTION ...] [INPUT ...]"

/-- How the command is used, in full. -/
def helpText : String :=
  "\n".intercalate
    ([usageText, "", "Generate typed host-object bindings from API schema files", "",
      "  INPUT", "      Schema files"] ++
      Opt.all.map Opt.entry)

end HostBindings.CommandLine
