import HostBindings.CommandLine.Arguments
import HostBindings.CommandLine.Batch
import HostBindings.LogSetup
import HostBindings.Settings.Check

/-!
# The command

What the command does with its arguments, on a console, a web and a tree of files: it lists or
describes languages, writes settings, or runs a batch. An error that is expected is shown and ends
the command with exit code one.

## Main definitions

* `Session` — console, files, log and screen
* `CommandError` — expected errors; `Crash` — all others
* `perform` — what understood arguments ask for
* `Ending`, `Arguments.run`, `command` — the whole command
-/

namespace HostBindings.CommandLine

variable [WorkingDirectory]

/-- What the command acts on. -/
structure Session where
  /-- The console. -/
  console : Console
  /-- The files. -/
  tree : FileTree
  /-- The log. -/
  log : Log := []
  /-- What was shown. -/
  screen : List ScreenItem := []

/-- An error that is shown. -/
inductive CommandError where
  /-- A language that nothing is registered for. -/
  | unsupported (language : String) (supported : List String)
  /-- There is nothing to generate. -/
  | noInput
  /-- The inputs cannot be told. -/
  | input (fault : InputFault)
  /-- The output needs a directory. -/
  | noDirectory
  /-- The settings cannot be had, or not be written. -/
  | config (error : Settings.ConfigError)
  /-- The generator cannot be made. -/
  | registry (error : RegistryError)
  deriving DecidableEq, Repr

/-- The wording of an error. -/
def CommandError.message : CommandError → String
  | .unsupported language supported =>
    s!"Unsupported language '{language}' (supported: " ++ ", ".intercalate supported ++ ")"
  | .noInput => "Input source required (files, directories or --url)"
  | .input fault => fault.message
  | .noDirectory => "--output is required for several inputs or --per-block"
  | .config error => error.message
  | .registry error => error.message

/-- What ends the command in no orderly way. -/
inductive Crash where
  | log (fault : LogFault)
  | load (fault : LoadFault)
  | setting (fault : UseFault)
  | limit (error : Json.ReadError)
  | unsaved (error : Json.WriteError)
  | file (fault : FileFault)
  | screen (reason : String)
  deriving DecidableEq, Repr

/-- The wording of a crash. -/
def Crash.message : Crash → String
  | .log fault => fault.message
  | .load fault => fault.message
  | .setting fault => fault.message
  | .limit error => error.message
  | .unsaved error => error.message
  | .file fault => fault.message
  | .screen reason => reason

/-- How the command ends early. -/
inductive Abort where
  | error (error : CommandError)
  | crash (crash : Crash)
  deriving DecidableEq, Repr

/-- The actions of the command. -/
abbrev Commanding := ExceptT Abort (StateM Session)

namespace Commanding

/-- Shows one thing. -/
def displayItem (item : ScreenItem) : Commanding Unit := do
  if let some reason := (← get).console.refusal? item then throw (.crash (.screen reason))
  modify fun session => { session with screen := session.screen ++ [item] }

/-- Shows things, one after the other. -/
def display (items : List ScreenItem) : Commanding Unit := items.forM displayItem

/-- Reports one record. -/
def note (level : Level) (message : String) : Commanding Unit :=
  modify fun session => { session with log := session.log ++ [⟨level, message⟩] }

/-- An attempt as an action; `abort` says how its errors end the command. -/
def attempt (abort : ε → Abort) (action : Attempt ε α) : Commanding α := do
  let session ← get
  let (result, log) := action.run.run session.log
  set { session with log }
  match result with
  | .ok value => return value
  | .error error => throw (abort error)

/-- A use of settings as an action. -/
def setting (result : Except UseFault α) : Commanding α :=
  match result with
  | .ok value => pure value
  | .error fault => throw (.crash (.setting fault))

end Commanding

/-- How an error of loading settings ends the command. -/
def Abort.ofLoadError : Settings.LoadError → Abort
  | .config cause => .error (.config cause)
  | .setting fault => .crash (.setting fault)
  | .file fault => .crash (.file fault)
  | .limit cause => .crash (.limit cause)
  | .unsaved cause => .crash (.unsaved cause)

/-- How a fault of inputs ends the command. -/
def Abort.ofInputFault : InputFault → Abort
  | .missing path => .error (.input (.missing path))
  | .unreachable fault => .crash (.file fault)

/-- How a fault of a batch ends the command. -/
def Abort.ofBatchFault : BatchFault → Abort
  | .load fault => .crash (.load fault)
  | .setting fault => .crash (.setting fault)
  | .file fault => .crash (.file fault)
  | .screen reason => .crash (.screen reason)

/-! ### Languages -/

/-- Lists the languages. -/
def listLanguages (registry : Registry) : Commanding Nat := do
  let languages := registry.allInfo
  if languages.isEmpty then
    Commanding.display [.line "[yellow]⚠️ No code generators available[/yellow]"]
  else
    Commanding.display [.blank, languageTable languages, .blank, quickStart]
  return 0

/-- Describes a language. -/
def describeLanguage (registry : Registry) (language : String) : Commanding Nat := do
  match registry.info language with
  | .error _ =>
    Commanding.display [.line s!"[red]✗ Language '{language}' is not supported[/red]",
      .line "[dim]Use --list-languages to see available options[/dim]"]
    return 1
  | .ok info =>
    Commanding.display [.blank, languagePanel info]
    let tree := (← get).tree
    let settings ← Commanding.attempt Abort.ofLoadError (Settings.resolve tree info.name)
    Commanding.display [.blank, settingsTable settings]
    return 0

/-! ### Settings -/

/-- The settings that arguments give. -/
def Arguments.overrides (arguments : Arguments) : Json.Members :=
  let given := fun (key : String) (value : OptionValue) =>
    if value.content = "" then [] else [(key, Json.string value.content)]
  given "package_name" arguments.package ++
    (if arguments.noComments then [("add_comments", .bool false)] else []) ++
    (if arguments.noTags then [("generate_tags", .bool false)] else []) ++
    (if arguments.hostHandle = .absent then []
      else [("host_handle_field", arguments.hostHandle.setting)]) ++
    (if arguments.perBlock then [("per_block_output", .bool true)] else []) ++
    given "process_filter" arguments.process ++
    (if arguments.strictEvents then [("event_literal_mode", .string "strict")] else [])

/-- The settings of a run for a language, with a warning for each problem. -/
def effectiveSettings (registry : Registry) (arguments : Arguments) (named : String) :
    Commanding Settings := do
  let language := registry.resolve named
  let tree := (← get).tree
  let settings ← Commanding.attempt Abort.ofLoadError
    (Settings.resolve tree language arguments.overrides arguments.config.content)
  let problems ← Commanding.setting (settings.problems language)
  problems.forM fun problem => do
    Commanding.note .warning s!"Configuration: {problem.message}"
    Commanding.display [.line s!"[yellow]⚠️  Configuration:[/yellow] {problem.message}"]
  return settings

/-- Writes settings to a file. -/
def writeSettings (settings : Settings) (file : String) : Commanding Unit := do
  match Settings.save (← get).tree settings file with
  | .error error => throw (.ofLoadError error)
  | .ok tree =>
    modify fun session => { session with tree }
    Commanding.display
      [.line s!"[green]✓[/green] Configuration written to [cyan]{file}[/cyan]"]

/-! ### Batches -/

/-- The documents that arguments name. -/
def jobsOf (arguments : Arguments) : Commanding (List Job) := do
  let tree := (← get).tree
  let paths ← Commanding.attempt Abort.ofInputFault (Inputs.discover tree arguments.inputs)
  let files := paths.map fun path => (⟨path.text, .file path.text⟩ : Job)
  let url := arguments.url.content
  return files ++ if url = "" then [] else [⟨url, .web url⟩]

/-- Runs a batch as an action of the command. -/
def runBatch (batch : Batch) (jobs : List Job) : Commanding (List FileRun) := do
  let session ← get
  let ((result, tree), log) := ((batch.runAll jobs).run.run session.tree).run session.log
  set { session with tree, log }
  match result with
  | .ok runs => return runs
  | .error fault => throw (Abort.ofBatchFault fault)

/-- Generates what arguments name, and reports it. -/
def generateInputs (web : Web.Lookup) (arguments : Arguments) (generator : Generator) :
    Commanding Nat := do
  let jobs ← jobsOf arguments
  if jobs.isEmpty then
    Commanding.display [.line "[red]✗[/red] No schema files to process"]
    return 1
  let output := arguments.output.content
  let directory := if output = "" then none else some (Path.ofString output)
  -- without a directory there is only the screen, which takes a single text
  if directory.isNone && (jobs.length > 1 || generator.settings.perBlock) then
    throw (.error .noDirectory)
  let runs ← runBatch { generator, directory, web, console := (← get).console } jobs
  Commanding.display (batchItems directory.isNone arguments.verbose runs)
  let processed := (runs.filter FileRun.ok).length
  Commanding.note .info s!"{processed} of {runs.length} schema files processed"
  return exitCode runs

/-- Does what arguments ask for; the answer is the exit code. -/
def perform (web : Web.Lookup) (arguments : Arguments) : Commanding Nat := do
  let registry := Registry.builtin
  let described := arguments.languageInfo.content
  if arguments.listLanguages then listLanguages registry
  else if described ≠ "" then describeLanguage registry described
  else
    let language ← Commanding.setting (arguments.language.setting.textFor "lower")
    if !registry.isSupported language then
      throw (.error (.unsupported language registry.languages))
    let settings ← effectiveSettings registry arguments language
    let hasInput := !arguments.inputs.isEmpty || arguments.url.content ≠ ""
    let target := arguments.writeConfig.content
    if target ≠ "" then writeSettings settings target
    -- settings may be written without anything to generate
    if target ≠ "" && !hasInput then return 0
    if !hasInput then throw (.error .noInput)
    let tree := (← get).tree
    let generator ← Commanding.attempt (fun error => .error (.registry error))
      (registry.create tree language (.given settings))
    generateInputs web arguments generator

/-! ### The command as a whole -/

/-- How the command ends in an orderly way. -/
structure Ending where
  /-- The exit code. -/
  exit : Nat
  /-- What was done; the log has the records of the level that is kept. -/
  session : Session

/-- The line that shows the version. -/
def versionLine : String := "api-bindgen 0.1.0"

/-- What is shown of arguments that are refused. -/
def UsageError.shown (error : UsageError) : String :=
  s!"api-bindgen: error: {error.message}"

/-- The last line of what is shown, without the blanks around it all. -/
def UsageError.lastLine (error : UsageError) : String :=
  String.ofList ((Text.lines (Text.trim error.shown.toList)).getLastD [])

/-- Runs understood arguments, from the setting up of the log on; the first record shows them. An
expected error is shown, and the exit code is one. -/
def Arguments.run (arguments : Arguments) (console : Console) (web : Web.Lookup)
    (tree : FileTree) : Except Crash Ending := do
  let (setup, tree) ← (LogSetup.start tree (.ofJson arguments.logLevel.setting)
    arguments.logFile.setting).mapError Crash.log
  let log : Log := [⟨.debug, s!"Arguments: {arguments.shown}"⟩]
  let kept := fun (session : Session) =>
    { session with log := session.log.atLeast setup.rank.toNat }
  match (perform web arguments).run.run { console, tree, log } with
  | (.ok exit, session) => return ⟨exit, kept session⟩
  | (.error (.error error), session) =>
    let shown : ScreenItem := .line s!"[red]✗ Error:[/red] {error.message}"
    if let some reason := console.refusal? shown then throw (.screen reason)
    return ⟨1, kept { session with screen := session.screen ++ [shown] }⟩
  | (.error (.crash crash), _) => throw crash

/-- The command: it stops at its arguments, or runs them. -/
def command (console : Console) (web : Web.Lookup) (tree : FileTree) (arguments : List String) :
    Except Stop (Except Crash Ending) :=
  (Arguments.parse arguments).map fun understood => understood.run console web tree

end HostBindings.CommandLine
