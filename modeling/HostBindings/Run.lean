import HostBindings.Declaration
import HostBindings.Destination

/-!
# Runs

A run takes the blocks of a description in order. Each block has a pass of its own; a pass that
fails, or a destination that does not take its text, is the failure of that block alone. The names
that a block declares are taken for the blocks after it where all go to one package.

## Main definitions

* `BlockResult`, `Outcome`, `RunReport` — what became of the blocks
* `Interruption` — what ends a run before its last block
* `RunReport.summary` — the report as text
* `Generator.runBlock`, `Generator.run` — one block, and all of them
-/

namespace HostBindings

open Api (Block Schema)

/-- Why a block failed. -/
inductive BlockFault where
  | pass (fault : PassFault)
  | sink (error : SinkError)
  deriving DecidableEq, Repr

/-- The wording of a fault. -/
def BlockFault.message : BlockFault → String
  | .pass fault => fault.message
  | .sink error => error.message

/-- What became of a block. -/
inductive BlockResult where
  /-- It was generated, with a number of nested declarations. -/
  | generated (nested : Nat)
  /-- It does not belong to the process that is generated for. -/
  | skipped (process : String)
  /-- It failed. -/
  | failed (fault : BlockFault)
  deriving DecidableEq, Repr

namespace BlockResult

/-- The word for a result. -/
def status : BlockResult → String
  | generated _ => "generated"
  | skipped _ => "skipped"
  | failed _ => "failed"

/-- Why a block was not generated. -/
def reason : BlockResult → String
  | generated _ => ""
  | skipped process => s!"not available in {process} process"
  | failed fault => fault.message

/-- The number of nested declarations that were generated. -/
def nested : BlockResult → Nat
  | generated nested => nested
  | _ => 0

/-- Whether the block was generated. -/
def isGenerated : BlockResult → Bool
  | generated _ => true
  | _ => false

/-- Whether the block was skipped. -/
def isSkipped : BlockResult → Bool
  | skipped _ => true
  | _ => false

/-- Whether the block failed. -/
def isFailed : BlockResult → Bool
  | failed _ => true
  | _ => false

end BlockResult

/-- A block by name, and what became of it. -/
structure Outcome where
  /-- The name of the block. -/
  name : String
  /-- What became of it. -/
  result : BlockResult
  deriving DecidableEq, Repr

/-- What became of the blocks of a document. -/
structure RunReport where
  /-- The name of the document. -/
  source : Json
  /-- The outcomes, in the order of the blocks. -/
  outcomes : List Outcome := []
  /-- The warnings of all passes. -/
  warnings : List String := []
  deriving DecidableEq

namespace RunReport

/-- The outcomes of generated blocks. -/
def generated (report : RunReport) : List Outcome :=
  report.outcomes.filter (·.result.isGenerated)

/-- The outcomes of skipped blocks. -/
def skipped (report : RunReport) : List Outcome :=
  report.outcomes.filter (·.result.isSkipped)

/-- The outcomes of failed blocks. -/
def failed (report : RunReport) : List Outcome :=
  report.outcomes.filter (·.result.isFailed)

/-- Whether no block failed. -/
def ok (report : RunReport) : Bool := report.failed.isEmpty

/-- The report as text: the counts, and a line for each failure. -/
def summary (report : RunReport) : String :=
  let counts :=
    s!"{report.source.text}: {report.generated.length} generated, " ++
      s!"{report.skipped.length} skipped, {report.failed.length} failed"
  report.failed.foldl
    (fun text outcome => text ++ s!"\n  {outcome.name}: {outcome.result.reason}") counts

end RunReport

/-- The state of a run. -/
structure RunState (σ : Type) where
  /-- The state of the destination. -/
  destination : σ
  /-- The names that are taken. -/
  reserved : List String := []
  /-- The outcomes so far. -/
  outcomes : List Outcome := []
  /-- The warnings so far. -/
  warnings : List String := []
  /-- The log. -/
  log : Log := []

/-- What ends a run before its last block. -/
inductive Interruption where
  /-- A setting that cannot be used outside a pass. -/
  | setting (fault : UseFault)
  /-- A destination at a path that no file can have. -/
  | path (fault : FileFault)
  deriving DecidableEq, Repr

/-- The wording of what ends a run. -/
def Interruption.message : Interruption → String
  | .setting fault => fault.message
  | .path fault => fault.message

/-- The actions of a run. -/
abbrev Running (σ : Type) := ExceptT Interruption (StateM (RunState σ))

namespace Running

/-- A use of settings within a run. -/
def setting (result : Except UseFault α) : Running σ α :=
  match result with
  | .ok value => pure value
  | .error fault => throw (.setting fault)

/-- Reports records. -/
def log (records : Log) : Running σ Unit :=
  modify fun state => { state with log := state.log ++ records }

/-- Reports one record. -/
def note (level : Level) (message : String) : Running σ Unit :=
  log [⟨level, message⟩]

/-- Records the outcome of a block. -/
def finish (block : Block) (result : BlockResult) : Running σ Unit :=
  modify fun state => { state with outcomes := state.outcomes ++ [⟨block.name, result⟩] }

end Running

namespace Generator

variable {σ η : Type}

/-- Passes a block over: nothing of it is generated. -/
def passOver (generator : Generator) (block : Block) : Running σ Unit := do
  let process := generator.settings.processFilter.text
  Running.note .info s!"Skipping {block.name}: not available in {process} process"
  Running.finish block (.skipped process)

/-- Hands the text of a finished pass over. `nested` is the number of its nested declarations. -/
def commitPass (destination : Destination σ η) (shared : Bool) (block : Block) (handle : η)
    (pass : Pass) (nested : Nat) : Running σ Unit := do
  let state ← get
  let (taken, after) := destination.commit handle pass.sink state.destination
  set { state with destination := after }
  match taken with
  | .error error =>
    Running.note .error s!"{block.name}: {error.message}"
    Running.finish block (.failed (.sink error))
  | .ok () =>
    -- the names of a pass include those that were taken before it
    if shared then modify fun state => { state with reserved := pass.scope.names }
    Running.finish block (.generated nested)

/-- Runs the pass of a block whose destination is open, and hands the text over. -/
def runPass (generator : Generator) (destination : Destination σ η) (shared : Bool)
    (block : Block) (start : Pass) (handle : η) : Running σ Unit := do
  Running.log (destination.opened handle)
  let (result, pass) := (generator.emission block).run.run start
  Running.log pass.log
  -- a pass that fails has warned all the same
  modify fun state => { state with warnings := state.warnings ++ pass.warnings }
  match result with
  | .error fault =>
    Running.note .error s!"{block.name}: emission failed: {fault.message}"
    modify fun state =>
      { state with destination := destination.release handle state.destination }
    Running.finish block (.failed (.pass fault))
  | .ok nested => commitPass destination shared block handle pass nested

/-- Generates one block: opens the destination, runs the pass, and hands the text over. -/
def runBlock (generator : Generator) (destination : Destination σ η) (shared : Bool)
    (block : Block) : Running σ Unit := do
  Running.note .info s!"Processing {block.name}"
  if !(← Running.setting (generator.settings.allows block.info.processes)) then
    generator.passOver block
  else
    let start ← Running.setting (Pass.start generator block (← get).reserved)
    let (handle?, opened) :=
      destination.openFor block start.scope.symbol (← get).destination
    -- what a refused opening has changed stays changed
    modify fun state => { state with destination := opened }
    match handle? with
    | .error (.path fault) => throw (.path fault)
    | .error (.sink error) =>
      Running.note .error s!"{block.name}: {error.message}"
      Running.finish block (.failed (.sink error))
    | .ok handle => generator.runPass destination shared block start handle

/-- The names of all blocks, each once. -/
def blockSymbols (generator : Generator) (schema : Schema) : Except UseFault (List String) := do
  return unite [] (← schema.blocks.mapM fun block => generator.baseSymbol block.info)

/-- Generates the blocks of a description in order. The names of all blocks are taken from the
start; where `shared` holds, so are the names that generated blocks declare. -/
def run (generator : Generator) (destination : Destination σ η) (shared : Bool)
    (schema : Schema) : Running σ RunReport := do
  let symbols ← Running.setting (generator.blockSymbols schema)
  modify fun state => { state with reserved := symbols }
  -- a block that fails is an outcome; only a fault of the settings or of a path ends the run
  schema.blocks.forM (generator.runBlock destination shared)
  let state ← get
  let report : RunReport :=
    { source := schema.source, outcomes := state.outcomes, warnings := state.warnings }
  Running.note .info report.summary
  return report

end Generator

end HostBindings
