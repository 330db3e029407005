import HostBindings.CommandLine.Screen
import HostBindings.Generation
import HostBindings.Inputs
import HostBindings.Loading

/-!
# Batches

A batch takes documents one after the other: each is loaded, generated and written. What goes wrong
with one document stays with it; only what nobody expects ends the batch.

## Main definitions

* `Job` — a document of a batch
* `FileRun`, `RunFault` — what became of a document
* `Batch` — a batch: where documents come from and where output goes
* `Batch.runJob`, `Batch.runAll` — one document, and all of them
* `batchItems`, `exitCode` — what is shown in the end
-/

namespace HostBindings.CommandLine

variable [WorkingDirectory]

/-- A document of a batch. -/
structure Job where
  /-- How it is called in messages. -/
  label : String
  /-- Where it is. -/
  location : Location
  deriving DecidableEq, Repr

/-- What the output of a document is called, without extension. -/
def Job.stem (job : Job) : String :=
  match job.location with
  | .file path => (Path.ofString path).stem
  | .web url =>
    let path :=
      match Url.read url with
      | .ok parts => parts.path
      | .error _ => ""
    let stem := (Path.ofString path).stem
    if stem = "" then "schema" else stem

/-- Why a document of a batch failed. -/
inductive RunFault where
  /-- It cannot be loaded. -/
  | unloaded (fault : LoadFault)
  /-- Nothing is generated. -/
  | ungenerated (fault : GenerationFault)
  /-- Its output cannot be written. -/
  | unwritten (path : String) (fault : FileFault)
  deriving DecidableEq, Repr

/-- The wording of a fault. -/
def RunFault.message : RunFault → String
  | .unloaded fault => fault.message
  | .ungenerated fault => fault.message
  | .unwritten path fault => s!"Failed to write {path}: {fault.message}"

/-- What became of a document. -/
structure FileRun where
  /-- How it is called. -/
  source : String
  /-- What was generated, if anything. -/
  generation : Option Generation := none
  /-- The files that were written. -/
  outputs : List String := []
  /-- Why it failed, if it did. -/
  fault : Option RunFault := none
  deriving DecidableEq

/-- Whether all went well with a document. -/
def FileRun.ok (run : FileRun) : Bool := run.fault.isNone

/-- A batch. -/
structure Batch where
  /-- The generator. -/
  generator : Generator
  /-- The directory for the output; none to show the code. -/
  directory : Option Path
  /-- The web. -/
  web : Web.Lookup
  /-- The console. -/
  console : Console

/-- What ends a batch: a fault of loading that is not one of the document, a setting that cannot be
used, a path that no file can have or a text that cannot be encoded, or a line that the console
refuses. -/
inductive BatchFault where
  | load (fault : LoadFault)
  | setting (fault : UseFault)
  | file (fault : FileFault)
  | screen (reason : String)
  deriving DecidableEq, Repr

/-- The actions of a batch: they change the tree, and report. -/
abbrev Batching := ExceptT BatchFault (StateT FileTree Logged)

namespace Batch

/-- A report within a batch. -/
def note (level : Level) (message : String) : Batching Unit :=
  report level message

/-- A loaded description, or why there is none. -/
def loadJob (batch : Batch) (job : Job) : Batching (Except LoadFault Api.Schema) := do
  let tree ← getThe FileTree
  match ← (job.location.loadSchema tree batch.web).outcome with
  | .ok schema => return .ok schema
  | .error fault =>
    if fault.isExpected then
      note .error s!"Cannot load {job.label}: {fault.message}"
      return .error fault
    else throw (.load fault)

/-- Generates a description: one file for each block if the settings say so, else one text. -/
def generateJob (batch : Batch) (schema : Api.Schema) :
    Batching (Except GenerationFault Generation) := do
  let generator := batch.generator
  if generator.settings.perBlock then
    let tree ← getThe FileTree
    let (result, tree) ← generator.generateFiles schema (batch.directory.getD {}) tree
    set tree
    return result
  else (generator.generate schema).outcome

/-- The files of the generated blocks of a description. -/
def blockOutputs (batch : Batch) (schema : Api.Schema) (generation : Generation) :
    Except UseFault (List String) := do
  let generated := generation.report.generated.map (·.name)
  let blocks := schema.blocks.filter fun block => generated.contains block.name
  blocks.mapM fun block => do
    return (← batch.generator.outputPath block (batch.directory.getD {})).text

/-- Writes the text of a document below a directory. -/
def writeCode (tree : FileTree) (directory path : Path) (code : String) :
    Except FileFault Unit × FileTree :=
  match tree.makeDirectories directory with
  | (.error fault, below) => (.error fault, below)
  | (.ok (), below) =>
    match below.write path code with
    -- a file that could be opened is left empty
    | .error fault => (.error fault, (below.putFile path "").toOption.getD below)
    | .ok written => (.ok (), written)

/-- Writes what was generated of a document; the run gets the files, or the fault. -/
def writeJob (batch : Batch) (job : Job) (schema : Api.Schema) (generation : Generation)
    (run : FileRun) : Batching FileRun := do
  -- the blocks have their files already, which are only listed here
  if batch.generator.settings.perBlock then
    match batch.blockOutputs schema generation with
    | .ok outputs => return { run with outputs }
    | .error fault => throw (.setting fault)
  else
    match batch.directory with
    | none => return run
    | some directory =>
      if generation.code = "" then return run
      let path := directory.child (job.stem ++ Generator.fileExtension)
      let (written, tree) := writeCode (← getThe FileTree) directory path generation.code
      set tree
      match written with
      | .ok () => return { run with outputs := [path.text] }
      | .error fault =>
        -- a fault of the path or the text ends the batch, a refusal only the run of this document
        if !fault.isRefusal then throw (.file fault)
        note .error s!"Failed to write {path.text}: {fault.message}"
        return { run with fault := some (.unwritten path.text fault) }

/-- The line that is shown while a document is in work. -/
def progressLine (job : Job) : String := s!"[cyan]Generating {job.label}..."

/-- Loads, generates and writes one document. -/
def runJob (batch : Batch) (job : Job) : Batching FileRun := do
  if let some reason := batch.console.progressRefusal? (progressLine job) then
    throw (.screen reason)
  let run : FileRun := { source := job.label }
  match ← batch.loadJob job with
  | .error fault => return { run with fault := some (.unloaded fault) }
  | .ok schema =>
    match ← batch.generateJob schema with
    | .error fault => return { run with fault := some (.ungenerated fault) }
    | .ok generation =>
      batch.writeJob job schema generation { run with generation := some generation }

/-- Runs all documents, in order. -/
def runAll (batch : Batch) (jobs : List Job) : Batching (List FileRun) :=
  jobs.mapM batch.runJob

end Batch

/-! ### The report of a batch -/

/-- The row of a document in the summary. -/
def FileRun.summaryRow (run : FileRun) : List String :=
  match run.fault, run.generation with
  | some fault, _ => [run.source, "-", "-", "-", s!"[red]✗ {fault.message}[/red]"]
  | none, none => [run.source, "0", "0", "0", "[dim]stdout[/dim]"]
  | none, some generation =>
    let report := generation.report
    [run.source, toString report.generated.length, toString report.skipped.length,
      toString report.failed.length,
      if run.outputs.isEmpty then "[dim]stdout[/dim]" else "\n".intercalate run.outputs]

/-- The summary of a batch. -/
def summaryTable (runs : List FileRun) : ScreenItem :=
  .table "📊 Generation Summary" ["Source", "Generated", "Skipped", "Failed", "Output"]
    (runs.map FileRun.summaryRow)

/-- A line for each block that failed. -/
def failedBlockLines (runs : List FileRun) : List ScreenItem :=
  runs.flatMap fun run =>
    match run.generation with
    | none => []
    | some generation =>
      generation.report.failed.map fun outcome =>
        .line (s!"[red]✗[/red] {run.source}: block [bold]{outcome.name}[/bold] failed: " ++
          outcome.result.reason)

/-- A key as a heading: its words with capital first letters. -/
def heading (key : String) : String :=
  " ".intercalate ((Text.splitOn '_' key.toList).map fun word => headWord (String.ofList word))

/-- The counts and the warnings of a document. -/
def FileRun.details (run : FileRun) : List ScreenItem :=
  match run.generation with
  | none => []
  | some generation =>
    let rows := generation.metadata.map fun (key, value) => [heading key, value.text]
    [.blank, .table s!"📊 {run.source}" ["Property", "Value"] rows] ++
      if generation.warnings.isEmpty then []
      else
        .line "\n[yellow]⚠️  Warnings:[/yellow]" ::
          generation.warnings.map fun warning => .line s!"  [yellow]•[/yellow] {warning}"

/-- The code of a document that goes to no file. -/
def codeItem (code : String) : ScreenItem :=
  if code = "" then .line "[yellow]⚠️  No declarations generated[/yellow]"
  else .code code Generator.language

/-- What is shown of a batch in the end. -/
def batchItems (shown verbose : Bool) (runs : List FileRun) : List ScreenItem :=
  let code :=
    match shown, runs with
    | true, run :: _ =>
      match run.fault, run.generation with
      | none, some generation => [codeItem generation.code]
      | _, _ => []
    | _, _ => []
  code ++ [.blank, summaryTable runs] ++ failedBlockLines runs ++
    if verbose then runs.flatMap FileRun.details else []

/-- The exit code of a batch: zero if all went well with at least one document and all others. -/
def exitCode (runs : List FileRun) : Nat :=
  if runs.isEmpty || runs.any (!·.ok) then 1 else 0

end HostBindings.CommandLine
