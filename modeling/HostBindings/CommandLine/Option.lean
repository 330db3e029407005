/-!
# Options of the command

The options, the names they have, and which of them take a value. The order of the names is the one
in which messages list them.

## Main definitions

* `CommandLine.Opt` — the options
* `Opt.names`, `Opt.takesValue`, `Opt.shown`
* `CommandLine.optionNames` — all names with the options they name
-/

namespace HostBindings.CommandLine

/-- The options of the command. -/
inductive Opt where
  | help
  | url
  | output
  | language
  | config
  | version
  | package
  | noComments
  | noTags
  | hostHandle
  | perBlock
  | process
  | strictEvents
  | writeConfig
  | listLanguages
  | languageInfo
  | logLevel
  | logFile
  | verbose
  deriving DecidableEq, Repr

namespace Opt

/-- All options, in order. -/
def all : List Opt :=
  [help, url, output, language, config, version, package, noComments, noTags, hostHandle, perBlock,
    process, strictEvents, writeConfig, listLanguages, languageInfo, logLevel, logFile, verbose]

/-- The names of an option. -/
def names : Opt → List String
  | help => ["-h", "--help"]
  | url => ["--url"]
  | output => ["--output", "-o"]
  | language => ["--language", "-l"]
  | config => ["--config"]
  | version => ["--version"]
  | package => ["--package", "--package-name"]
  | noComments => ["--no-comments"]
  | noTags => ["--no-tags"]
  | hostHandle => ["--host-handle"]
  | perBlock => ["--per-block"]
  | process => ["--process"]
  | strictEvents => ["--strict-events"]
  | writeConfig => ["--write-config"]
  | listLanguages => ["--list-languages"]
  | languageInfo => ["--language-info"]
  | logLevel => ["--log-level"]
  | logFile => ["--log-file"]
  | verbose => ["--verbose", "-v"]

/-- Whether an option takes a value. -/
def takesValue : Opt → Bool
  | help | version | noComments | noTags | perBlock | strictEvents | listLanguages
  | verbose => false
  | _ => true

/-- How messages name an option. -/
def shown (opt : Opt) : String := "/".intercalate opt.names

end Opt

/-- All names with the options they name, in order. -/
def optionNames : List (String × Opt) :=
  Opt.all.flatMap fun opt => opt.names.map fun name => (name, opt)

/-- The option of a name. -/
def optionOf? (name : String) : Option Opt := optionNames.lookup name

end HostBindings.CommandLine
