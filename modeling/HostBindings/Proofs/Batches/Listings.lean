import HostBindings.Proofs.Batches.Outputs
import HostBindings.Proofs.Runs.Repeats

/-!
# What a batch lists

With a file for each block, the files of a document are listed by the names of the blocks that were
generated. Every file that was written is listed, once and in the order of the description. A block
that was not generated but has the name of one that was is listed as well, so the list is exact as
long as there is no such block.

## Main definitions

* `Batch.writtenOutputs` — the paths of the blocks that were generated
* `Batch.NamesGenerated` — names tell the blocks that were generated from those that were not
* `Batch.ListsWritten` — how a list of files fits the files that were written

## Main results

* `Batch.listsWritten_of_generated` — a document
* `Start.outputs_listed` — the documents of a command
-/

namespace HostBindings.CommandLine

open Api (Block Schema)

namespace Batch

variable {batch : Batch} {schema : Schema} {generation : Generation} {outputs : List String}
  {step : JobStep} {before loading after : BatchState}

/-- The paths of the blocks that were generated, in the order of the description. -/
def writtenOutputs (batch : Batch) (schema : Schema) (generation : Generation) : List String :=
  (batch.generator.writtenPaths batch.root schema.blocks generation.report.outcomes).map Path.text

/-- No block that was not generated has the name of one that was. -/
def NamesGenerated (schema : Schema) (generation : Generation) : Prop :=
  ∀ entry ∈ schema.blocks.zip generation.report.outcomes, entry.2.result.isGenerated = false →
    entry.1.name ∉ generation.report.generated.map (·.name)

/-- How a list of files fits the files that were written for a description. -/
structure ListsWritten (batch : Batch) (schema : Schema) (generation : Generation)
    (outputs : List String) : Prop where
  /-- Each block has an outcome, in order. -/
  named : generation.report.outcomes.map (·.name) = schema.blocks.map Block.name
  /-- No two files that were written have a path in common. -/
  single : (batch.writtenOutputs schema generation).Nodup
  /-- All of them are listed, in order. -/
  listed : (batch.writtenOutputs schema generation).Sublist outputs
  /-- There is nothing else in the list exactly if names tell which blocks were generated. -/
  exact_iff : outputs = batch.writtenOutputs schema generation ↔ NamesGenerated schema generation

/-- The paths that are written differ as texts too. -/
theorem nodup_writtenOutputs (proper : batch.root.IsProper)
    (single : (batch.generator.writtenPaths batch.root schema.blocks
      generation.report.outcomes).Nodup) : (batch.writtenOutputs schema generation).Nodup := by
  -- a path below the directory is read back from its text
  have reread {path : Path} (member : path ∈ batch.generator.writtenPaths batch.root schema.blocks
      generation.report.outcomes) : Path.ofString path.text = path := by
    obtain ⟨⟨block, outcome⟩, -, written⟩ := List.mem_filterMap.mp member
    dsimp only at written
    split at written
    next =>
      obtain ⟨symbol, -, rfl⟩ :=
        Generator.outputPath_eq_ok.mp (toOption_eq_some_iff.mp written)
      rw [blockPath_eq]
      exact Path.ofString_text (Path.isProper_beneath proper fun _ => isPart_of_mem_blockNames)
    next => cases written
  refine List.Nodup.map_on (fun path member other otherMember same => ?_) single
  rw [← reread member, same, reread otherMember]

/-! ### Blocks with their outcomes -/

/-- Whether a block is listed: its name is one of a block that was generated. -/
def isNamed (generation : Generation) (entry : Block × Outcome) : Bool :=
  (generation.report.generated.map (·.name)).contains entry.1.name

theorem isNamed_iff {entry : Block × Outcome} : isNamed generation entry = true ↔
    entry.1.name ∈ generation.report.generated.map (·.name) := by
  simp [isNamed]

variable {place : Block → Path}

theorem writtenOutputs_eq
    (placed : ∀ block ∈ schema.blocks,
      batch.generator.outputPath block batch.root = .ok (place block)) :
    batch.writtenOutputs schema generation =
      ((schema.blocks.zip generation.report.outcomes).filter (·.2.result.isGenerated)).map
        fun entry => (place entry.1).text := by
  unfold writtenOutputs Generator.writtenPaths
  rw [← List.filterMap_filter, List.map_filterMap, ← List.filterMap_eq_map]
  refine List.filterMap_congr fun entry member => ?_
  have known := (List.of_mem_zip (List.mem_of_mem_filter member)).1
  simp [placed entry.1 known, Except.toOption]

theorem blockOutputs_eq (lengths : generation.report.outcomes.length = schema.blocks.length)
    (placed : ∀ block ∈ schema.blocks,
      batch.generator.outputPath block batch.root = .ok (place block)) :
    batch.blockOutputs schema generation =
      .ok (((schema.blocks.zip generation.report.outcomes).filter (isNamed generation)).map
        fun entry => (place entry.1).text) := by
  have blocks : schema.blocks =
      (schema.blocks.zip generation.report.outcomes).map Prod.fst :=
    (List.map_fst_zip lengths.ge).symm
  have named : schema.blocks.filter (fun block =>
      (generation.report.generated.map (·.name)).contains block.name) =
        ((schema.blocks.zip generation.report.outcomes).filter (isNamed generation)).map
          Prod.fst := by
    conv_lhs => rw [blocks, List.filter_map]
    rfl
  unfold blockOutputs
  dsimp only
  rw [named, mapM_eq_ok_iff, List.forall₂_map_left_iff, List.forall₂_map_right_iff,
    List.forall₂_same]
  intro entry member
  have known := (List.of_mem_zip (List.mem_of_mem_filter member)).1
  exact bind_eq_ok_iff.mpr ⟨_, placed entry.1 known, rfl⟩

/-- A part of a list is as long as the whole only if nothing is left out. -/
theorem map_eq_map_filter_iff {α β : Type} {f : α → β} {keep : α → Bool} {items : List α} :
    items.map f = (items.filter keep).map f ↔ ∀ item ∈ items, keep item = true := by
  rw [← List.filter_eq_self]
  refine ⟨fun same => ?_, fun whole => by rw [whole]⟩
  have lengths := congrArg List.length same
  rw [List.length_map, List.length_map] at lengths
  exact List.filter_sublist.eq_of_length lengths.symm

variable [WorkingDirectory]

/-- A list of files of a document that is generated, as it is made. -/
theorem listsWritten_of_generated (perBlock : batch.generator.settings.perBlock = true)
    (proper : batch.root.IsProper)
    (generates : (batch.generateJob schema).outcome before = (.ok (.ok generation), after))
    (listing : batch.blockOutputs schema generation = .ok outputs) :
    batch.ListsWritten schema generation outputs := by
  have ran := generateJob_files generates
  rw [if_pos perBlock] at ran
  have writes := (batch.generator.generateFiles_writes schema batch.root before.1 before.2).2
  rw [ran] at writes
  obtain ⟨state, outcomes, -, writes⟩ := writes generation rfl
  obtain ⟨_, -, same, between⟩ := generateJob_filesBetween perBlock generates
  have single := writes.nodup
  rw [outcomes] at single
  have filed := between.filed
  rw [same] at filed
  choose! place placed using exists_path_of_mem perBlock generates
  rw [blockOutputs_eq filed.length_eq.symm placed] at listing
  cases listing
  have names : generation.report.outcomes.map (·.name) = schema.blocks.map Block.name :=
    (forall₂_map_eq filed fun own => own.name.symm).symm
  -- what was generated is named, so it is a part of what is listed
  have part : (schema.blocks.zip generation.report.outcomes).filter (·.2.result.isGenerated) =
      ((schema.blocks.zip generation.report.outcomes).filter (isNamed generation)).filter
        (·.2.result.isGenerated) := by
    rw [List.filter_filter]
    refine List.filter_congr fun entry member => ?_
    cases generated : entry.2.result.isGenerated with
    | false => rfl
    | true =>
      have own : entry.2.name = entry.1.name := ((List.forall₂_iff_zip.mp filed).2 member).name
      have named : isNamed generation entry = true :=
        isNamed_iff.mpr (List.mem_map.mpr
          ⟨entry.2, List.mem_filter.mpr ⟨(List.of_mem_zip member).2, generated⟩, own⟩)
      rw [named]
      rfl
  have written : batch.writtenOutputs schema generation =
      ((schema.blocks.zip generation.report.outcomes).filter (·.2.result.isGenerated)).map
        fun entry => (place entry.1).text := writtenOutputs_eq placed
  refine ⟨names, nodup_writtenOutputs proper single, ?_, ?_⟩
  · rw [written, part]
    exact List.filter_sublist.map _
  · rw [written, part]
    rw [map_eq_map_filter_iff, List.forall_mem_filter]
    refine forall₂_congr fun entry member => ?_
    rw [isNamed_iff, ← not_imp_not, Bool.not_eq_true]

/-! ### Documents -/

/-- What a document lists: nothing if nothing was generated, else the files that were written. -/
def Lists (batch : Batch) (step : JobStep) : Prop :=
  step.run.generation = none ∧ step.run.outputs = [] ∨
    ∃ schema generation, step.loaded = .ok schema ∧ step.run.generation = some generation ∧
      batch.ListsWritten schema generation step.run.outputs

theorem lists_runJob (perBlock : batch.generator.settings.perBlock = true)
    (proper : batch.root.IsProper)
    (loaded : (batch.loadJob step.job).outcome before = (.ok step.loaded, loading))
    (ran : (batch.runJob step.job).outcome before = (.ok step.run, after)) : batch.Lists step := by
  obtain ⟨job, read, run⟩ := step
  dsimp only at loaded ran
  cases jobEnd_runJob ran with
  | unloaded | ungenerated => exact .inl ⟨rfl, rfl⟩
  | generated loadedAs _ generates written =>
    rw [loaded] at loadedAs
    cases loadedAs
    cases written with
    | listed _ listing =>
      exact .inr ⟨_, _, rfl, rfl, listsWritten_of_generated perBlock proper generates listing⟩
    | kept single | written single | refused single =>
      rw [perBlock] at single
      cases single

/-- All documents that were processed. -/
theorem Processes.lists {steps : List JobStep} (perBlock : batch.generator.settings.perBlock = true)
    (proper : batch.root.IsProper) (processes : batch.Processes before steps after) :
    ∀ step ∈ steps, batch.Lists step := by
  induction processes with
  | nil => simp
  | cons loaded ran _ ih =>
    exact List.forall_mem_cons.mpr ⟨lists_runJob perBlock proper loaded ran, ih⟩

end Batch

namespace Start

variable [WorkingDirectory] {start : Start} {console : Console} {tree : FileTree}
  {given : List String}

/-- A command that writes a file for each block processes its documents in order; it shows their
runs in the end as far as the console does, unless a document that is not orderly ends it. A
document that nothing was generated of lists no file. Every other document lists the files of its
blocks that were generated, each once and in the order of the description, and nothing else exactly
if no block that was not generated has the name of one that was. -/
theorem outputs_listed (reached : Start.of console tree given = some start)
    (output : start.arguments.output.content ≠ "")
    (perBlock : start.generator.settings.perBlock = true) (web : Web.Lookup) :
    ∃ steps last, (start.batch web).Processes start.state steps last ∧
      (steps.map (·.job) = start.jobs ∧
          ((∀ item ∈ start.lastItems (steps.map (·.run)), console.refusal? item = none) →
            ∃ ending, command console web tree given = .ok (.ok ending) ∧
              ending.session.screen =
                start.session.screen ++ start.lastItems (steps.map (·.run))) ∨
        ∃ job rest crash, start.jobs = steps.map (·.job) ++ job :: rest ∧
          ¬ (start.batch web).Orderly job last ∧
          command console web tree given = .ok (.error crash)) ∧
      ∀ step ∈ steps,
        step.run.generation = none ∧ step.run.outputs = [] ∨
          ∃ schema generation, step.loaded = .ok schema ∧
            step.run.generation = some generation ∧
            (start.batch web).ListsWritten schema generation step.run.outputs := by
  obtain ⟨steps, last, processes, ended⟩ :=
    (start.batch web).runAll_cases start.jobs start.state
  refine ⟨steps, last, processes, ?_, processes.lists perBlock (Path.isProper_ofString _)⟩
  rcases ended with ⟨all, ran⟩ | ⟨job, rest, fault, _, split, ends, ran⟩
  · refine .inl ⟨all, fun shown => ?_⟩
    obtain ⟨ending, ended, -, -, screen⟩ := (command_of_runs reached output ran).1 shown
    exact ⟨ending, ended, screen⟩
  · obtain ⟨crash, -, crashed⟩ := command_of_fault reached output ran
    exact .inr ⟨job, rest, crash, split, fun orderly => orderly.not_fault ends, crashed⟩

end Start

end HostBindings.CommandLine

namespace HostBindings.CommandLine.Start

open Api (Schema)

attribute [local instance] WorkingDirectory.root

/-- A module and a structure of the same name. -/
def namesakeSample : FileTree := .ofFiles
  [(.ofString "s.json", "[\x7b\"name\": \"a\", \"type\": \"Module\"\x7d, " ++
    "\x7b\"name\": \"a\", \"type\": \"Structure\"\x7d]")] []

/-- Whether a batch has one run, with certain outputs. -/
def listsOnly (start : Start) (outputs : List String) : Bool :=
  match ((start.batch Web.offline).runAll start.jobs).outcome start.state with
  | (.ok [run], _) => run.generation.isSome && run.outputs == outputs
  | _ => false

theorem outputs_listed_sample :
    ∃ (start : Start) (step : JobStep) (schema : Schema) (generation : Generation),
      Start.of .plain namesakeSample ["s.json", "-o", "out", "--per-block"] = some start ∧
      start.arguments.output.content ≠ "" ∧ start.generator.settings.perBlock = true ∧
      step.run.generation = some generation ∧
      step.run.outputs = ["out/amodule/amodule.go", "out/a/a.go"] ∧
      (start.batch Web.offline).ListsWritten schema generation step.run.outputs := by
  have evaluated : (Start.of .plain namesakeSample
      ["s.json", "-o", "out", "--per-block"]).any (fun start =>
      start.arguments.output.content ≠ "" && start.generator.settings.perBlock &&
        start.listsOnly ["out/amodule/amodule.go", "out/a/a.go"]) = true := by
    decide +kernel
  obtain ⟨start, reached, settled⟩ := Option.any_eq_true _ _ |>.mp evaluated
  simp only [Bool.and_eq_true, decide_eq_true_eq] at settled
  obtain ⟨⟨output, perBlock⟩, lists⟩ := settled
  unfold listsOnly at lists
  split at lists
  next run last ran =>
    rw [Bool.and_eq_true, beq_iff_eq] at lists
    obtain ⟨some, outputs⟩ := lists
    obtain ⟨steps, _, processes, ended, each⟩ :=
      outputs_listed reached output perBlock Web.offline
    rcases ended with ⟨all, -⟩ | ⟨_, _, _, -, -, crashed⟩
    · -- the one run of the batch is that of the one document
      have runs := processes.outcome_runAll
      rw [all, ran] at runs
      have same : steps.map (·.run) = [run] := by simpa using (congrArg Prod.fst runs).symm
      obtain ⟨step, rfl, rfl⟩ := List.map_eq_singleton_iff.mp same
      rcases each step (List.mem_singleton_self _) with
        ⟨none, -⟩ | ⟨schema, generation, -, made, fits⟩
      · rw [none] at some
        cases some
      · exact ⟨start, step, schema, generation, reached, output, perBlock, made, outputs, fits⟩
    · obtain ⟨ending, ended, -⟩ := (command_of_runs reached output ran).1 fun _ _ => rfl
      rw [ended] at crashed
      cases crashed
  next => cases lists

end HostBindings.CommandLine.Start
