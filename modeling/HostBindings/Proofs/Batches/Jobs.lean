import HostBindings.CommandLine.Batch
import HostBindings.Proofs.Batches.Loading
import HostBindings.Proofs.Files.Obstacles
import HostBindings.Proofs.Runs.Directories

/-!
# The documents of a batch

Each document of a batch ends in one of a few ways. A document that cannot be loaded, that nothing
is generated of, or whose output is refused has a run that says so, and the batch goes on. A batch
is only ended by a document that is not orderly: its name is not shown, it is not loaded and cannot
be told why, its output can have no path, or its code cannot be encoded.

## Main definitions

* `Batching.outcome` — what an action of a batch leads to
* `Batch.WriteEnd`, `Batch.JobEnd` — the ways a document can end
* `Batch.Orderly` — documents that end no batch
* `JobStep`, `Batch.Processes` — documents that were processed one after another

## Main results

* `Batch.jobEnd_runJob` — every document ends in one of the ways
* `Batch.Orderly.not_fault` — an orderly document ends no batch
* `Batch.runAll_cases` — a batch comes to its end, or to a document that ends it
-/

namespace HostBindings.CommandLine

open Api (Schema)

variable {α β : Type}

/-! ### Actions of a batch -/

/-- What a batch changes: the files, and the log. -/
abbrev BatchState := FileTree × Log

namespace Batching

/-- The result of an action, or what ends the batch, and the state it leads to. -/
def outcome (action : Batching α) (before : BatchState) : Except BatchFault α × BatchState :=
  let ((result, tree), log) := (action.run.run before.1).run before.2
  (result, tree, log)

variable {state : BatchState}

theorem outcome_bind (action : Batching α) (next : α → Batching β) :
    outcome (action >>= next) state =
      match action.outcome state with
      | (.ok a, after) => (next a).outcome after
      | (.error fault, after) => (.error fault, after) := by
  unfold outcome
  rw [ExceptT.run_bind, StateT.run_bind, StateT.run_bind]
  rcases (action.run.run state.1).run state.2 with ⟨⟨_ | a, tree⟩, log⟩ <;> rfl

@[simp] theorem outcome_pure (a : α) :
    outcome (pure a : Batching α) state = (.ok a, state) := rfl

@[simp] theorem outcome_throw (fault : BatchFault) :
    outcome (throw fault : Batching α) state = (.error fault, state) := rfl

@[simp] theorem outcome_getThe :
    outcome (getThe FileTree : Batching FileTree) state = (.ok state.1, state) := rfl

@[simp] theorem outcome_set (tree : FileTree) :
    outcome (set tree : Batching PUnit) state = (.ok (), tree, state.2) := rfl

@[simp] theorem outcome_note (level : Level) (message : String) :
    outcome (Batch.note level message) state =
      (.ok (), state.1, state.2 ++ [⟨level, message⟩]) := rfl

/-- An action that only reports keeps the files. -/
theorem outcome_lift (action : Logged α) :
    outcome (liftM action : Batching α) state =
      (.ok (action.run state.2).1, state.1, (action.run state.2).2) := rfl

end Batching

namespace Batch

variable {batch : Batch} {job : Job} {schema : Schema} {generation : Generation} {run : FileRun}
  {before after : BatchState}

/-! ### Loading and generating -/

variable [WorkingDirectory]

/-- Loading keeps the files; it only ends a batch with a fault that is not expected. -/
theorem loadJob_cases (batch : Batch) (job : Job) (before : BatchState) :
    ∃ log, (∃ loaded, (batch.loadJob job).outcome before = (.ok loaded, before.1, log)) ∨
      ∃ fault, (batch.loadJob job).outcome before = (.error (.load fault), before.1, log) ∧
        fault.isExpected = false := by
  unfold loadJob
  simp only [Batching.outcome_bind, Batching.outcome_getThe, Batching.outcome_lift]
  cases ((job.location.loadSchema before.1 batch.web).outcome.run before.2).1 with
  | ok schema => exact ⟨_, .inl ⟨_, rfl⟩⟩
  | error fault =>
    dsimp only
    cases expected : fault.isExpected with
    | true => exact ⟨_, .inl ⟨_, rfl⟩⟩
    | false => exact ⟨_, .inr ⟨fault, rfl, expected⟩⟩

/-- Generating never ends a batch. -/
theorem exists_generateJob (batch : Batch) (schema : Schema) (before : BatchState) :
    ∃ result after, (batch.generateJob schema).outcome before = (.ok result, after) := by
  unfold generateJob
  dsimp only
  split
  · simp only [Batching.outcome_bind, Batching.outcome_getThe, Batching.outcome_lift,
      Batching.outcome_set, Batching.outcome_pure]
    exact ⟨_, _, rfl⟩
  · rw [Batching.outcome_lift]
    exact ⟨_, _, rfl⟩

/-- The directory that files are below. -/
def root (batch : Batch) : Path := batch.directory.getD {}

/-- With a file for each block, generating changes the files as that does; else it keeps them. -/
theorem generateJob_files {result : Except GenerationFault Generation}
    (generating : (batch.generateJob schema).outcome before = (.ok result, after)) :
    if batch.generator.settings.perBlock then
      (batch.generator.generateFiles schema batch.root before.1).run before.2 =
        ((result, after.1), after.2)
    else after.1 = before.1 := by
  unfold generateJob at generating
  dsimp only at generating
  split at generating
  next perBlock =>
    simp only [Batching.outcome_bind, Batching.outcome_getThe, Batching.outcome_lift,
      Batching.outcome_set, Batching.outcome_pure] at generating
    cases generating
    rw [if_pos perBlock]
    rfl
  next single =>
    rw [Batching.outcome_lift] at generating
    cases generating
    rw [if_neg single]

/-- Where all goes to one text, generating keeps the files. -/
theorem generateJob_keeps {result : Except GenerationFault Generation}
    (single : batch.generator.settings.perBlock = false)
    (generating : (batch.generateJob schema).outcome before = (.ok result, after)) :
    after.1 = before.1 := by
  simpa [single] using generateJob_files generating

/-- With a file for each block, the files of what is generated are there. -/
theorem generateJob_filesBetween (perBlock : batch.generator.settings.perBlock = true)
    (generating : (batch.generateJob schema).outcome before = (.ok (.ok generation), after)) :
    ∃ state : RunState OutputDirectory, state.destination.tree = after.1 ∧
      state.outcomes = generation.report.outcomes ∧
      batch.generator.FilesBetween schema batch.root before.1 schema.blocks state := by
  have ran := generateJob_files generating
  rw [if_pos perBlock] at ran
  exact (Generator.generateFiles_ends ran).2 generation rfl

/-! ### Writing -/

/-- Where the text of a document is written below a directory. -/
def codeName (job : Job) : String := job.stem ++ Generator.fileExtension

/-- The ways the output of a document can end. -/
inductive WriteEnd (batch : Batch) (job : Job) (schema : Schema) (generation : Generation)
    (run : FileRun) (before : BatchState) : Except BatchFault FileRun → BatchState → Prop where
  /-- The files of the blocks are written already, and listed. -/
  | listed {outputs : List String} : batch.generator.settings.perBlock = true →
      batch.blockOutputs schema generation = .ok outputs →
      WriteEnd batch job schema generation run before (.ok { run with outputs }) before
  /-- They cannot be listed. -/
  | unlisted {fault : UseFault} : batch.generator.settings.perBlock = true →
      batch.blockOutputs schema generation = .error fault →
      WriteEnd batch job schema generation run before (.error (.setting fault)) before
  /-- There is nothing to write, or nowhere to write it. -/
  | kept : batch.generator.settings.perBlock = false →
      batch.directory = none ∨ generation.code = "" →
      WriteEnd batch job schema generation run before (.ok run) before
  /-- The text is written. -/
  | written {directory : Path} {tree : FileTree} : batch.generator.settings.perBlock = false →
      batch.directory = some directory → generation.code ≠ "" →
      writeCode before.1 directory (directory.child (codeName job)) generation.code =
        (.ok (), tree) →
      WriteEnd batch job schema generation run before
        (.ok { run with outputs := [(directory.child (codeName job)).text] }) (tree, before.2)
  /-- The file system refuses the text. -/
  | refused {directory : Path} {tree : FileTree} {fault : FileFault} {log : Log} :
      batch.generator.settings.perBlock = false → batch.directory = some directory →
      writeCode before.1 directory (directory.child (codeName job)) generation.code =
        (.error fault, tree) → fault.isRefusal = true →
      WriteEnd batch job schema generation run before
        (.ok { run with fault := some (.unwritten (directory.child (codeName job)).text fault) })
        (tree, log)
  /-- No file can have the path. -/
  | unusable {directory : Path} {tree : FileTree} {fault : FileFault} :
      batch.generator.settings.perBlock = false → batch.directory = some directory →
      writeCode before.1 directory (directory.child (codeName job)) generation.code =
        (.error fault, tree) → fault.isRefusal = false →
      WriteEnd batch job schema generation run before (.error (.file fault)) (tree, before.2)

/-- Every output ends in one of the ways. -/
theorem writeEnd_writeJob (batch : Batch) (job : Job) (schema : Schema) (generation : Generation)
    (run : FileRun) (before : BatchState) :
    batch.WriteEnd job schema generation run before
      ((batch.writeJob job schema generation run).outcome before).1
      ((batch.writeJob job schema generation run).outcome before).2 := by
  -- file by file for single blocks, else in one text, if there is a directory and any text
  unfold writeJob
  split
  next perBlock =>
    cases listing : batch.blockOutputs schema generation with
    | ok outputs => exact .listed perBlock listing
    | error fault => exact .unlisted perBlock listing
  next many =>
    have single : batch.generator.settings.perBlock = false := by simpa using many
    cases place : batch.directory with
    | none => exact .kept single (.inl place)
    | some directory =>
      dsimp only
      split
      next empty => exact .kept single (.inr empty)
      next filled =>
        simp only [Batching.outcome_bind, Batching.outcome_getThe, Batching.outcome_set]
        rcases writing : writeCode before.1 directory (directory.child (codeName job))
          generation.code with ⟨fault | _, tree⟩
        · have same : writeCode before.1 directory
              (directory.child (job.stem ++ Generator.fileExtension)) generation.code =
                (.error fault, tree) := writing
          cases refusal : fault.isRefusal with
          | false =>
            simp only [same, refusal, Bool.not_false, if_true]
            exact .unusable single place writing refusal
          | true =>
            simp only [same, refusal, Bool.not_true, Bool.false_eq_true, if_false,
              Batching.outcome_bind, Batching.outcome_note, Batching.outcome_pure]
            exact .refused single place writing refusal
        · have same : writeCode before.1 directory
              (directory.child (job.stem ++ Generator.fileExtension)) generation.code =
                (.ok (), tree) := writing
          simp only [same, Batching.outcome_pure]
          exact .written single place filled writing

/-! ### A document -/

/-- The ways a document can end. -/
inductive JobEnd (batch : Batch) (job : Job) (before : BatchState) :
    Except BatchFault FileRun → BatchState → Prop where
  /-- The console does not show that it is in work. -/
  | unshown {reason : String} :
      batch.console.progressRefusal? (progressLine job) = some reason →
      JobEnd batch job before (.error (.screen reason)) before
  /-- Loading fails in a way that nobody expects. -/
  | lost {fault : LoadFault} {after : BatchState} :
      (batch.loadJob job).outcome before = (.error (.load fault), after) →
      fault.isExpected = false → after.1 = before.1 →
      JobEnd batch job before (.error (.load fault)) after
  /-- The document cannot be loaded. -/
  | unloaded {fault : LoadFault} {after : BatchState} :
      (batch.loadJob job).outcome before = (.ok (.error fault), after) → after.1 = before.1 →
      JobEnd batch job before (.ok { source := job.label, fault := some (.unloaded fault) }) after
  /-- Nothing is generated. -/
  | ungenerated {schema : Schema} {fault : GenerationFault} {loading after : BatchState} :
      (batch.loadJob job).outcome before = (.ok (.ok schema), loading) → loading.1 = before.1 →
      (batch.generateJob schema).outcome loading = (.ok (.error fault), after) →
      JobEnd batch job before (.ok { source := job.label, fault := some (.ungenerated fault) })
        after
  /-- The document is generated; what becomes of its output is told. -/
  | generated {schema : Schema} {generation : Generation} {loading generating after : BatchState}
      {result : Except BatchFault FileRun} :
      (batch.loadJob job).outcome before = (.ok (.ok schema), loading) → loading.1 = before.1 →
      (batch.generateJob schema).outcome loading = (.ok (.ok generation), generating) →
      batch.WriteEnd job schema generation
        { source := job.label, generation := some generation } generating result after →
      JobEnd batch job before result after

/-- Every document ends in one of the ways. -/
theorem jobEnd_runJob {result : Except BatchFault FileRun}
    (ran : (batch.runJob job).outcome before = (result, after)) :
    batch.JobEnd job before result after := by
  suffices ended : batch.JobEnd job before ((batch.runJob job).outcome before).1
      ((batch.runJob job).outcome before).2 by rwa [ran] at ended
  unfold runJob
  cases shown : batch.console.progressRefusal? (progressLine job) with
  | some reason => exact .unshown shown
  | none =>
    -- each part leads to one result that the next part starts with
    obtain ⟨log, ⟨loaded, loading⟩ | ⟨fault, loading, unexpected⟩⟩ :=
      loadJob_cases batch job before
    all_goals simp only [Batching.outcome_bind, loading]
    · cases loaded with
      | error fault => exact .unloaded loading rfl
      | ok schema =>
        obtain ⟨result, middle, generating⟩ := exists_generateJob batch schema (before.1, log)
        simp only [Batching.outcome_bind, generating]
        cases result with
        | error fault => exact .ungenerated loading rfl generating
        | ok generation => exact .generated loading rfl generating (writeEnd_writeJob ..)
    · exact .lost loading unexpected rfl

/-- The run of a document bears its name. -/
theorem JobEnd.source {result : Except BatchFault FileRun}
    (ended : batch.JobEnd job before result after) (ok : result = .ok run) :
    run.source = job.label := by
  cases ended with
  | unshown | lost => cases ok
  | unloaded | ungenerated =>
    cases ok
    rfl
  | generated _ _ _ written =>
    cases written with
    | unlisted | unusable => cases ok
    | listed | kept | written | refused =>
      cases ok
      rfl

/-! ### What ends a batch -/

/-- When blocks are generated with a file for each, all blocks have names, and so paths. -/
theorem exists_path_of_mem (perBlock : batch.generator.settings.perBlock = true)
    (generating : (batch.generateJob schema).outcome before = (.ok (.ok generation), after)) :
    ∀ block ∈ schema.blocks, ∃ path, batch.generator.outputPath block batch.root = .ok path := by
  intro block member
  obtain ⟨state, -, -, between⟩ := generateJob_filesBetween perBlock generating
  obtain ⟨symbols, spelt, -⟩ := bind_eq_ok_iff.mp between.reserved
  obtain ⟨symbol, -, named⟩ := exists_result_of_mem (forall₂_of_mapM_eq_ok spelt) member
  exact ⟨_, Generator.outputPath_eq_ok.mpr ⟨symbol, named, rfl⟩⟩

/-- The files of blocks can be listed when they were generated. -/
theorem exists_blockOutputs (perBlock : batch.generator.settings.perBlock = true)
    (generating : (batch.generateJob schema).outcome before = (.ok (.ok generation), after)) :
    ∃ outputs, batch.blockOutputs schema generation = .ok outputs := by
  refine exists_mapM_eq_ok fun block member => ?_
  obtain ⟨path, placed⟩ :=
    exists_path_of_mem perBlock generating block (List.mem_of_mem_filter member)
  exact ⟨path.text, bind_eq_ok_iff.mpr ⟨path, placed, rfl⟩⟩

/-- A document has a certain code, if it can be loaded and generated. -/
def HasCode (batch : Batch) (job : Job) (before : BatchState) (code : String) : Prop :=
  ∃ schema generation loading after,
    (batch.loadJob job).outcome before = (.ok (.ok schema), loading) ∧
      (batch.generateJob schema).outcome loading = (.ok (.ok generation), after) ∧
      generation.code = code

/-- A document that ends no batch. What is written of it block by block never does, so only an
output as a whole has to have a path and a text that can be encoded. -/
structure Orderly (batch : Batch) (job : Job) (before : BatchState) : Prop where
  /-- The console shows that it is in work. -/
  shown : batch.console.progressRefusal? (progressLine job) = none
  /-- It can be loaded, or be told why not. -/
  loads : job.location.IsOrderly before.1 batch.web
  /-- The path of its output has no null character. -/
  placed : batch.generator.settings.perBlock = false → ∀ directory,
    batch.directory = some directory → '\x00' ∉ (directory.child (codeName job)).text.toList
  /-- Its code can be encoded, if it is written. -/
  encodable : batch.generator.settings.perBlock = false → batch.directory.isSome = true →
    ∀ code, batch.HasCode job before code → Text.IsEncodable code

/-- An orderly document is loaded, or not loaded for a reason that is told. -/
theorem exists_loadJob (orderly : job.location.IsOrderly before.1 batch.web) :
    ∃ loaded after, (batch.loadJob job).outcome before = (.ok loaded, after) := by
  have meets := Location.meets_loadSchema orderly before.2
  unfold loadJob
  simp only [Batching.outcome_bind, Batching.outcome_getThe, Batching.outcome_lift,
    Attempt.outcome]
  rcases ran : (job.location.loadSchema before.1 batch.web).run.run before.2 with
    ⟨fault | schema, after⟩
  · have expected : fault.isExpected = true := meets.2 fault after ran
    simp only [expected, if_true, Batching.outcome_bind, Batching.outcome_note,
      Batching.outcome_pure]
    exact ⟨_, _, rfl⟩
  · exact ⟨_, _, rfl⟩

/-- A text that can be encoded, for a path without a null character, is written or refused by the
file system. -/
theorem isRefusal_of_writeCode {tree written : FileTree} {directory : Path} {name code : String}
    {fault : FileFault} (plain : '\x00' ∉ (directory.child name).text.toList)
    (encodable : Text.IsEncodable code)
    (refused : writeCode tree directory (directory.child name) code = (.error fault, written)) :
    fault.isRefusal = true := by
  unfold writeCode at refused
  -- the directories are refused, or the file; the text is not, since it can be encoded
  split at refused
  next cause below failed =>
    obtain ⟨other, bars, same⟩ := FileTree.bars_of_makeDirectories failed
    cases refused
    rcases same with rfl | ⟨-, reported⟩
    · exact bars.isRefusal (Path.plain_of_child plain)
    · exact reported
  next below made =>
    have fault? : Text.encodingFault? code = none := encodable
    split at refused
    next cause failed =>
      cases refused
      rcases bind_eq_error_iff.mp failed with put | ⟨_, -, encoded⟩
      · rcases bind_eq_error_iff.mp put with led | ⟨place, -, there⟩
        · exact FileTree.isRefusal_of_locate plain led
        · split at there
          · cases there
            rfl
          · cases there
      · rw [fault?] at encoded
        cases encoded
    next => cases refused

/-- An orderly document ends no batch. -/
theorem Orderly.not_fault {fault : BatchFault} (orderly : batch.Orderly job before)
    (ran : (batch.runJob job).outcome before = (.error fault, after)) : False := by
  cases jobEnd_runJob ran with
  | unshown refused =>
    rw [orderly.shown] at refused
    cases refused
  | lost lost =>
    obtain ⟨loaded, loading, had⟩ := exists_loadJob orderly.loads
    rw [had] at lost
    cases lost
  | generated loading _ generating written =>
    cases written with
    | unlisted perBlock unlisted =>
      -- names that cannot be had end the generation, so its files can be listed
      obtain ⟨outputs, listed⟩ := exists_blockOutputs perBlock generating
      rw [listed] at unlisted
      cases unlisted
    | unusable single place refused refusal =>
      have encodable := orderly.encodable single (by rw [place]; rfl) _
        ⟨_, _, _, _, loading, generating, rfl⟩
      rw [isRefusal_of_writeCode (orderly.placed single _ place) encodable refused] at refusal
      cases refusal

end Batch

/-! ### Documents in order -/

/-- A document of a batch that was processed. -/
structure JobStep where
  /-- The document. -/
  job : Job
  /-- What it was read as, or why it could not be read. -/
  loaded : Except LoadFault Schema
  /-- What became of it. -/
  run : FileRun

namespace Batch

variable {batch : Batch} {job : Job} {before after : BatchState}

variable [WorkingDirectory]

/-- Documents that were processed in order, from one state of the files to another. -/
inductive Processes (batch : Batch) : BatchState → List JobStep → BatchState → Prop where
  /-- None. -/
  | nil {state : BatchState} : Processes batch state [] state
  /-- One, and those after it. -/
  | cons {step : JobStep} {rest : List JobStep} {before loading middle after : BatchState} :
      (batch.loadJob step.job).outcome before = (.ok step.loaded, loading) →
      (batch.runJob step.job).outcome before = (.ok step.run, middle) →
      Processes batch middle rest after → Processes batch before (step :: rest) after

/-- A document with a run was loaded, or could not be. -/
theorem exists_loaded {run : FileRun}
    (ran : (batch.runJob job).outcome before = (.ok run, after)) :
    ∃ loaded loading, (batch.loadJob job).outcome before = (.ok loaded, loading) := by
  cases jobEnd_runJob ran with
  | unloaded loading | ungenerated loading | generated loading => exact ⟨_, _, loading⟩

/-- The runs bear the names of the documents. -/
theorem Processes.sources {steps : List JobStep} (processes : batch.Processes before steps after) :
    steps.map (·.run.source) = steps.map (·.job.label) := by
  induction processes with
  | nil => rfl
  | @cons step rest before _ _ _ _ ran _ ih =>
    rw [List.map_cons, List.map_cons, ih, (jobEnd_runJob ran).source rfl]

/-- A batch of documents that were processed has their runs. -/
theorem Processes.outcome_runAll {steps : List JobStep}
    (processes : batch.Processes before steps after) :
    (batch.runAll (steps.map (·.job))).outcome before = (.ok (steps.map (·.run)), after) := by
  unfold runAll
  induction processes with
  | nil => rfl
  | cons _ ran _ ih => simp only [List.map_cons, List.mapM_cons, Batching.outcome_bind, ran, ih,
      Batching.outcome_pure]

/-- A batch processes its documents in order, until it comes to its end or to a document that ends
it. -/
theorem runAll_cases (batch : Batch) (jobs : List Job) (before : BatchState) :
    ∃ steps reached, batch.Processes before steps reached ∧
      (steps.map (·.job) = jobs ∧
          (batch.runAll jobs).outcome before = (.ok (steps.map (·.run)), reached) ∨
        ∃ job rest fault after, jobs = steps.map (·.job) ++ job :: rest ∧
          (batch.runJob job).outcome reached = (.error fault, after) ∧
          (batch.runAll jobs).outcome before = (.error fault, after)) := by
  unfold runAll
  induction jobs generalizing before with
  | nil => exact ⟨[], before, .nil, .inl ⟨rfl, rfl⟩⟩
  | cons job rest ih =>
    simp only [List.mapM_cons, Batching.outcome_bind]
    rcases ran : (batch.runJob job).outcome before with ⟨fault | run, middle⟩
    · exact ⟨[], before, .nil, .inr ⟨job, rest, fault, middle, rfl, ran, rfl⟩⟩
    · -- the first document was processed: the others go on from there
      obtain ⟨loaded, loading, load⟩ := exists_loaded ran
      obtain ⟨steps, reached, processes, ended⟩ := ih middle
      refine ⟨⟨job, loaded, run⟩ :: steps, reached, .cons load ran processes, ?_⟩
      dsimp only
      rcases ended with ⟨all, finished⟩ | ⟨other, later, fault, after, split, ends, crashed⟩
      · rw [finished]
        exact .inl ⟨by rw [List.map_cons, all], rfl⟩
      · rw [crashed]
        exact .inr ⟨other, later, fault, after, by rw [split]; rfl, ends, rfl⟩

end Batch

end HostBindings.CommandLine
