import HostBindings.Files.Output
import HostBindings.Header
import HostBindings.Review
import HostBindings.Run
import HostBindings.Text.Layout

/-!
# Generation

A whole description becomes one text, or one file for each block. The result has the text, the
warnings of the review and of all passes, counts, and the report of the run. A description without
blocks is an error, as is what ends a run before its last block.

## Main definitions

* `Generation`, `GenerationFault` — results
* `Generator.generate` — one text
* `Generator.generateFiles` — one file for each block
-/

namespace HostBindings

open Api (Schema)

variable [WorkingDirectory]

/-- Why nothing is generated. -/
inductive GenerationFault where
  /-- A description without blocks. -/
  | noBlocks (source : String)
  /-- A setting or a destination that ends the generation. -/
  | interrupted (cause : Interruption)
  /-- The text has no header. -/
  | header (fault : HeaderFault)
  deriving DecidableEq, Repr

/-- The wording of a fault. -/
def GenerationFault.message : GenerationFault → String
  | .noBlocks source => s!"{source}: no blocks to process"
  | .interrupted cause => s!"Code generation failed: {cause.message}"
  | .header fault => s!"Code generation failed: {fault.message}"

/-- What was generated of a description. -/
structure Generation where
  /-- The generated text; empty if files were written or no block was generated. -/
  code : String
  /-- The warnings of the review, then those of the passes. -/
  warnings : List String
  /-- The number of blocks. -/
  blockCount : Nat
  /-- The report of the run. -/
  report : RunReport
  deriving DecidableEq

/-- The number of nested declarations that were generated. -/
def Generation.nestedTypes (generation : Generation) : Nat :=
  generation.report.outcomes.foldl (fun total outcome => total + outcome.result.nested) 0

/-- The counts that describe a generation, by name. -/
def Generation.metadata (generation : Generation) : Json.Members :=
  let count := fun (n : Nat) => Json.int n
  [("language", .string Generator.language), ("file_extension", .string Generator.fileExtension),
    ("source", generation.report.source), ("block_count", count generation.blockCount),
    ("generated_blocks", count generation.report.generated.length),
    ("skipped_blocks", count generation.report.skipped.length),
    ("failed_blocks", count generation.report.failed.length),
    ("nested_types", count generation.nestedTypes)]

namespace Generator

/-- The record of a generation that failed. -/
def failureRecord (source reason : String) : LogRecord :=
  ⟨.error, s!"Code generation failed for {source}: {reason}"⟩

/-- The text of a unit in its normal form; empty without sections. -/
def unitCode (generator : Generator) (schema : Schema) (unit : DeclarationUnit) :
    Except HeaderFault String :=
  if unit.sections.isEmpty then .ok ""
  else do
    let text ← generator.renderUnit unit (schema.metadataBlock?.map (·.info))
    return Text.tidy text

/-- Reviews a description and runs its blocks into a destination that starts in a certain state.
The answer has the warnings, the report, the state of the destination, and the log. -/
def reviewAndRun (generator : Generator) (destination : Destination σ η) (shared : Bool)
    (schema : Schema) (start : σ) :
    Except Interruption (List String × RunReport) × σ × Log :=
  match generator.review schema with
  -- a review that fails has reported nothing
  | .error fault => (.error (.setting fault), start, [])
  | .ok remarks =>
    let (result, state) :=
      (generator.run destination shared schema).run.run { destination := start }
    let answer := result.map fun report =>
      (remarks.map Remark.message ++ report.warnings, report)
    (answer, state.destination, state.log)

/-- Generates one text of a description. -/
def generate (generator : Generator) (schema : Schema) :
    Attempt GenerationFault Generation := do
  let source := schema.source.text
  if schema.blocks.isEmpty then throw (.noBlocks source)
  let (result, unit, log) :=
    generator.reviewAndRun .toUnit true schema { source := schema.source }
  modify (· ++ log)
  match result with
  | .error cause =>
    modify (· ++ [failureRecord source cause.message])
    throw (.interrupted cause)
  | .ok (warnings, report) =>
    match generator.unitCode schema unit with
    | .error fault =>
      modify (· ++ [failureRecord source fault.message])
      throw (.header fault)
    | .ok code => return { code, warnings, blockCount := schema.blocks.length, report }

/-- Generates one file for each block of a description, below a directory of a tree. The tree is
kept whatever happens. -/
def generateFiles (generator : Generator) (schema : Schema) (directory : Path)
    (tree : FileTree) : Logged (Except GenerationFault Generation × FileTree) := do
  let source := schema.source.text
  if schema.blocks.isEmpty then return (.error (.noBlocks source), tree)
  let destination := Destination.toDirectory generator directory schema.source
  let (result, after, log) := generator.reviewAndRun destination false schema { tree }
  modify (· ++ log)
  match result with
  | .error cause =>
    modify (· ++ [failureRecord source cause.message])
    return (.error (.interrupted cause), after.tree)
  | .ok (warnings, report) =>
    return (.ok { code := "", warnings, blockCount := schema.blocks.length, report }, after.tree)

end Generator

end HostBindings
