import HostBindings.Proofs.Imports.Passes
import HostBindings.Proofs.Runs.Outcomes
import HostBindings.Proofs.Runs.Repeats

/-!
# The imports of generated files

A unit unites the imports of the sections that it takes, and a file has those of its one section, so
either imports what the declarations in it need. That holds whichever blocks fail and wherever a run
ends: what a pass has imported that is not committed reaches no header.

## Main definitions

* `Generator.headerText` — the header of a file, by what it imports
* `Generator.ExactUnit` — a unit of whole sections, with the imports that they need
* `Generator.FileOf` — the text of the file of a block, with the imports that it needs

## Main results

* `Destination.Fills.exactUnit_blocks` — the blocks of a unit
* `Generator.fileOf_blocks` — the files that a run leaves
* `Generator.imports_exact`
-/

namespace HostBindings

open Api (Block Info Schema)
open FileTree (Changes)

variable {σ η : Type}

namespace Generator

variable {generator : Generator}

/-! ### Headers -/

/-- The header of a file: the notice, the package clause and, if there is an import, its clause. -/
def headerText (generator : Generator) (package : Json) (imports : List Json) (source : Json)
    (metadata : Option Info) : String :=
  "\n".intercalate ([""].intercalate
    (headerParts (generator.noticeLines source metadata) package.text
      (imports.head?.map Json.text))) ++ "\n"

theorem fileHeader_eq_headerText (builtin : generator.templates = .builtin) {imports : List Json}
    (only : generator.HostOnly imports) (package source : Json) (metadata : Option Info) :
    generator.fileHeader package imports source metadata =
      .ok (generator.headerText package imports source metadata) := by
  obtain ⟨path?, rfl⟩ := only.exists_option
  rw [fileHeader_eq builtin]
  cases path? <;> rfl

/-! ### Units -/

/-- A unit of whole sections of blocks, with the imports that their declarations need. -/
structure ExactUnit (generator : Generator) (blocks : List Block) (unit : DeclarationUnit) :
    Prop where
  /-- Every section is that of a block. -/
  sections : ∀ entry ∈ unit.sections, ∃ block ∈ blocks, generator.SectionOf block entry
  /-- The imports are those of all declarations. -/
  imports : generator.ImportsFor unit.declarations unit.imports

/-- A generated block adds its section and the imports that this needs. -/
theorem ExactUnit.commit {blocks : List Block} {unit : DeclarationUnit} {block : Block}
    {reserved : List String} {start pass : Pass} {count : Nat}
    (configured : generator.IsConfigured) (exactUnit : generator.ExactUnit blocks unit)
    (member : block ∈ blocks) (started : Pass.start generator block reserved = .ok start)
    (run : Emit.Runs (generator.emission block) start count pass) :
    generator.ExactUnit blocks (unit.commit pass.sink) where
  sections entry there := by
    rcases List.mem_append.mp there with old | new
    · exact exactUnit.sections entry old
    · rw [List.mem_singleton.mp new]
      exact ⟨block, member, start, pass, wrote_of_runs configured.templates started run⟩
  imports := by
    have both := exactUnit.imports.append (importsFor_emission configured started run)
    simpa [DeclarationUnit.commit, DeclarationUnit.declarations] using both

end Generator

namespace Destination.Fills

variable {destination : Destination σ η} {unitIn : σ → DeclarationUnit} {generator : Generator}

/-- One block of a run into a unit. -/
theorem exactUnit_runBlock (fills : destination.Fills unitIn) (configured : generator.IsConfigured)
    {shared : Bool} {blocks : List Block} {block : Block} {before after : RunState σ}
    {result : Except Interruption Unit} (member : block ∈ blocks)
    (exactUnit : generator.ExactUnit blocks (unitIn before.destination))
    (ended : generator.BlockEnd destination shared block before result after) :
    generator.ExactUnit blocks (unitIn after.destination) := by
  cases ended with
  | unprepared _ same | skipped _ same =>
    rw [same]
    exact exactUnit
  | lost _ _ keeps | failed _ _ keeps =>
    rw [fills.kept keeps]
    exact exactUnit
  | generated prepared run keeps committed =>
    obtain ⟨-, started⟩ := Generator.prepare_eq_some.mp prepared
    rw [fills.committed committed, fills.kept keeps]
    exact exactUnit.commit configured member started run

/-- All blocks of a run into a unit, whether or not the run comes to its end. -/
theorem exactUnit_blocks (fills : destination.Fills unitIn) (configured : generator.IsConfigured)
    (shared : Bool) {all blocks : List Block} (subset : blocks ⊆ all) {before : RunState σ}
    (exactUnit : generator.ExactUnit all (unitIn before.destination)) :
    generator.ExactUnit all (unitIn
      ((blocks.forM (generator.runBlock destination shared)).outcome before).2.destination) :=
  Generator.holds_blocks (generator.ExactUnit all <| unitIn ·.destination)
    (fun block member _ exactUnit => fills.exactUnit_runBlock configured (subset member) exactUnit
      (Generator.blockEnd_runBlock generator destination shared block _)) exactUnit

/-- A run into an empty unit. -/
theorem exactUnit_run (fills : destination.Fills unitIn) (configured : generator.IsConfigured)
    (shared : Bool) (schema : Schema) {start : σ} {source : Json}
    (empty : unitIn start = { source }) :
    generator.ExactUnit schema.blocks (unitIn
      ((generator.run destination shared schema).outcome
        { destination := start }).2.destination) := by
  have first : generator.ExactUnit schema.blocks (unitIn start) := by
    rw [empty]
    exact ⟨by simp, .nil⟩
  rw [Generator.run_eq, Generator.outcome_runThrough]
  cases generator.blockSymbols schema with
  | error fault => exact first
  | ok symbols =>
    let state : RunState σ := { destination := start, reserved := symbols }
    have begun : generator.ExactUnit schema.blocks (unitIn state.destination) := first
    have final := fills.exactUnit_blocks configured shared (List.Subset.refl _) begun
    dsimp only
    split
    next ran =>
      rw [ran] at final
      exact final
    next ran =>
      rw [ran] at final
      exact final

end Destination.Fills

namespace Generator

variable {generator : Generator} {schema : Schema}

/-- The code of a unit with sections: its header, a blank line, and its sections. -/
theorem unitCode_eq {unit : DeclarationUnit} (builtin : generator.templates = .builtin)
    (only : generator.HostOnly unit.imports) (filled : unit.sections ≠ []) :
    generator.unitCode schema unit = .ok (Text.tidy
      (withoutFinalLineFeeds (generator.headerText generator.settings.packageName unit.imports
        unit.source (schema.metadataBlock?.map (·.info))) ++ "\n\n" ++ unit.body ++ "\n")) := by
  have some : unit.sections.isEmpty = false := by simpa using filled
  rw [unitCode, some, renderUnit, fileHeader_eq_headerText builtin only]
  rfl

/-! ### Files -/

/-- The text of the file of a block: its whole section, behind a header with the imports that the
declarations in it need. -/
def FileOf (generator : Generator) (source : Json) (block : Block) (content : String) : Prop :=
  ∃ symbol entry imports, generator.baseSymbol block.info = .ok symbol ∧
    generator.SectionOf block entry ∧ generator.ImportsFor entry.declarations imports ∧
    content = OutputFile.content
      (generator.headerText (.string (Naming.packageOfSymbol symbol)) imports source
        (some block.info))
      entry.text

variable {directory : Path} {source : Json} {block : Block} {start pass : Pass} {place : Place}
  {content : String}

/-- What the pass of a block wrote has such a header. -/
theorem fileOf_of_runs (configured : generator.IsConfigured) {reserved : List String}
    {count : Nat} {head : String}
    (started : Pass.start generator block reserved = .ok start)
    (run : Emit.Runs (generator.emission block) start count pass)
    (header : generator.fileHeader (.string (Naming.packageOfSymbol start.scope.symbol))
      pass.sink.imports source (some block.info) = .ok head) :
    generator.FileOf source block (OutputFile.content head pass.sink.text) := by
  have imports := importsFor_emission configured started run
  have wrote := wrote_of_runs configured.templates started run
  rw [fileHeader_eq_headerText configured.templates imports.only] at header
  cases header
  exact ⟨_, _, _, baseSymbol_of_start started, ⟨start, pass, wrote⟩, imports, rfl⟩

variable [WorkingDirectory]

/-- A file that is there after a block was there before, or has the text of that block. -/
theorem fileOf_comesTo (configured : generator.IsConfigured) {reserved : List String}
    {before : OutputDirectory}
    (there : (generator.comesTo (.toDirectory generator directory source) block reserved
      before).2.2.tree.at? place = some (.file content)) :
    before.tree.at? place = some (.file content) ∨ generator.FileOf source block content := by
  unfold comesTo at there
  split at there
  · exact .inl there
  · exact .inl there
  next start prepared =>
    obtain ⟨-, started⟩ := prepare_eq_some.mp prepared
    -- a file can only come from the block where its text was taken
    have stores := generator.stores_deliver directory source block start before
    have changes := stores.changes
    generalize (generator.deliver (.toDirectory generator directory source) block start before).1 =
      result at stores changes
    generalize (generator.deliver (.toDirectory generator directory source) block start
      before).2.1 = warnings at stores
    generalize (generator.deliver (.toDirectory generator directory source) block start
      before).2.2 = after at stores changes there
    cases stores with
    | claimed | released | refused =>
      exact .inl (changes.comes (fun ⟨⟨_, same⟩, _⟩ => by cases same) there)
    | @unopened fault =>
      exact .inl (changes.comes (fun ⟨⟨_, same⟩, _⟩ => by cases fault <;> cases same) there)
    | taken _ created emitted committed =>
      obtain ⟨below, opens⟩ := OutputFile.opens_create created
      obtain ⟨text, whole, -, found⟩ := opens.at?_committed
        (place_ne_temporary opens.destination opens.beside) committed
      obtain ⟨head, header, rfl, -⟩ := OutputFile.wholeText_eq_ok_iff.mp whole
      rw [found] at there
      split at there
      · cases there
        exact .inr (fileOf_of_runs configured started emitted (mapError_eq_ok_iff.mp header))
      · exact .inl ((opens.makes.changes fun _ => False).comes not_false there)

theorem fileOf_runBlock (configured : generator.IsConfigured)
    {state next : RunState OutputDirectory} {result : Except Interruption Unit}
    (ran : (generator.runBlock (.toDirectory generator directory source) false block).outcome
      state = (result, next))
    (there : next.destination.tree.at? place = some (.file content)) :
    state.destination.tree.at? place = some (.file content) ∨
      generator.FileOf source block content := by
  obtain ⟨-, destination, -⟩ :=
    generator.runBlock_comesTo (.toDirectory generator directory source) block state
  rw [ran] at destination
  dsimp only at destination
  rw [destination] at there
  exact fileOf_comesTo configured there

/-- A file that is there after the blocks of a run, however that ends, was there before or has the
text of one of them. -/
theorem fileOf_blocks (configured : generator.IsConfigured) {blocks : List Block}
    {state : RunState OutputDirectory}
    (there : ((blocks.forM (generator.runBlock (.toDirectory generator directory source)
      false)).outcome state).2.destination.tree.at? place = some (.file content)) :
    state.destination.tree.at? place = some (.file content) ∨
      ∃ block ∈ blocks, generator.FileOf source block content := by
  refine holds_blocks (fun next : RunState OutputDirectory =>
    next.destination.tree.at? place = some (.file content) → _)
    (fun block member _ earlier there => ?_) .inl there
  rcases fileOf_runBlock configured rfl there with found | file
  · exact earlier found
  · exact .inr ⟨block, member, file⟩

omit [WorkingDirectory] in
/-- The text of the file of a block. -/
theorem fileOf_of_blockText (configured : generator.IsConfigured)
    (made : generator.blockText schema block = some content) :
    generator.FileOf schema.source block content := by
  simp only [blockText, Option.bind_eq_bind, Option.bind_eq_some_iff, toOption_eq_some_iff,
    Option.pure_def, Option.some.injEq] at made
  obtain ⟨symbols, -, start, started, count, emitted, head, header, rfl⟩ := made
  exact fileOf_of_runs configured started (Prod.ext emitted rfl) header

variable {tree : FileTree} {log : Log}

/-- A file that is there after a description was generated into a directory was there before, or has
the text of one of the blocks. -/
theorem fileOf_generateFiles (configured : generator.IsConfigured)
    (there : ((generator.generateFiles schema directory tree).run log).1.2.at? place =
      some (.file content)) :
    tree.at? place = some (.file content) ∨
      ∃ block ∈ schema.blocks, generator.FileOf schema.source block content := by
  have ended := generator.filesEnd_generateFiles schema directory tree log
  generalize ((generator.generateFiles schema directory tree).run log).1 = first at there ended
  obtain ⟨answer, last⟩ := first
  cases ended with
  | refused => exact .inl there
  | interrupted _ ran | reported _ ran =>
    exact fileOf_blocks configured ((congrArg (·.2.destination.tree.at? place) ran).trans there)

/-- The file of a block that is reported as generated is there, and has its text. -/
theorem fileOf_generated (configured : generator.IsConfigured) {generation : Generation}
    (answered : ((generator.generateFiles schema directory tree).run log).1.1 = .ok generation) :
    List.Forall₂ (fun block outcome => outcome.name = block.name ∧
      (outcome.result.isGenerated = true → ∃ path text,
        generator.outputPath block directory = .ok path ∧
        ((generator.generateFiles schema directory tree).run log).1.2.read path = .ok text ∧
        generator.FileOf schema.source block text))
      schema.blocks generation.report.outcomes := by
  refine (read_of_generateFiles answered).imp fun block outcome filed =>
    ⟨filed.1, fun generated => ?_⟩
  obtain ⟨path, text, placed, made, -, read⟩ := filed.2 generated
  exact ⟨path, text, placed, read, fileOf_of_blockText configured made⟩

/-- Imports are exact, as far as mentions are found. With settings that have a host package to
import, the header of a unit imports nothing but that, and only if one of the type expressions that
its sections are written with mentions it; and it is imported if one of them, other than the types
of texts and truth values, does so upfront, with nothing but pointers and brackets before. So it is
whichever sinks fail, and with every file of a block that a run leaves, even one that ends before
its last block. What is generated as one text has this header, and so has the file of each block
that is reported as generated. -/
theorem imports_exact {settings : Settings}
    (configured : Generator.ofSettings settings = .ok generator)
    (host : generator.types.hostImport.truthy = true) :
    (∀ {τ : Type} (faults : Faults τ) (memory : τ) (schema : Schema),
      generator.ExactUnit schema.blocks
        (generator.runWith faults memory schema).2.destination.1) ∧
    (∀ (schema : Schema) (generation : Generation), generator.answer schema = .ok generation →
      let unit := generator.unitOf schema
      List.Forall₂ generator.SectionOf
        (generatedBlocks schema.blocks generation.report.outcomes) unit.sections ∧
      generator.ImportsFor unit.declarations unit.imports ∧
      (unit.sections = [] → generation.code = "") ∧
      (unit.sections ≠ [] → generation.code = Text.tidy
        (withoutFinalLineFeeds (generator.headerText settings.packageName unit.imports
          schema.source (schema.metadataBlock?.map (·.info))) ++
          "\n\n" ++ unit.body ++ "\n"))) ∧
    ∀ (schema : Schema) (directory : Path) (tree : FileTree) (log : Log),
      let came := ((generator.generateFiles schema directory tree).run log).1
      (∀ place content, came.2.at? place = some (.file content) →
        tree.at? place = some (.file content) ∨
          ∃ block ∈ schema.blocks, generator.FileOf schema.source block content) ∧
      ∀ generation, came.1 = .ok generation →
        List.Forall₂ (fun block outcome => outcome.name = block.name ∧
          (outcome.result.isGenerated = true → ∃ path text,
            generator.outputPath block directory = .ok path ∧ came.2.read path = .ok text ∧
              generator.FileOf schema.source block text))
          schema.blocks generation.report.outcomes := by
  have ready := isConfigured_ofSettings configured host
  have same := settings_ofSettings configured
  refine ⟨fun faults memory schema => ?_, fun schema generation answered => ?_,
    fun schema directory tree log => ⟨fun place content => ?_, fun generation => ?_⟩⟩
  · exact (Destination.fills_toUnitWith faults).exactUnit_run ready true schema rfl
  · -- the code is the unit below its header, so all is known from the unit of the run
    obtain ⟨⟨state, ran⟩, coded⟩ := run_of_answer answered
    obtain ⟨-, sections⟩ := unitSections_run ready.templates ran
    have exactUnit : generator.ExactUnit schema.blocks (generator.unitOf schema) :=
      Destination.fills_toUnit.exactUnit_run ready true schema rfl
    refine ⟨sections.sections, exactUnit.imports, fun empty => ?_, fun filled => ?_⟩
    · rw [unitCode, empty] at coded
      exact (Except.ok.inj coded).symm
    · rw [unitCode_eq ready.templates sections.imports filled, sections.source, same] at coded
      exact (Except.ok.inj coded).symm
  · exact fileOf_generateFiles ready
  · exact fileOf_generated ready

end Generator

end HostBindings

namespace HostBindings.Generator

open Api (Schema)

attribute [local instance] WorkingDirectory.root

/-- A structure with a list of host objects. -/
def listSample : Schema :=
  { source := .string "s.json"
    blocks :=
      [{ info := { name := "a", rawType := .single "Object" }
         properties := [{ info := { name := "m", rawType := .single "List" } }] }] }

/-- Settings in which such lists are all that needs the host package. -/
def listSettings : Settings :=
  { custom := .object
      [("host_handle_type", .string "uintptr"),
        ("type_overrides", .object [("List", .string "[]*js.Object")])] }

theorem imports_exact_sample :
    ∃ generator generation, Generator.ofSettings listSettings = .ok generator ∧
      generator.types.hostImport.truthy = true ∧
      generator.answer listSample = .ok generation ∧
      Code.typeTextsOf (generator.unitOf listSample).declarations = ["uintptr", "[]*js.Object"] ∧
      (generator.unitOf listSample).imports = [generator.types.hostImport] := by
  have evaluated : (Generator.ofSettings listSettings).toOption.any (fun generator =>
      generator.types.hostImport.truthy &&
        decide (generator.types.stringType.text = "string") &&
        decide (generator.types.boolType.text = "bool") &&
        (generator.answer listSample).isOk &&
        decide (Code.typeTextsOf (generator.unitOf listSample).declarations =
          ["uintptr", "[]*js.Object"])) = true := by
    decide +kernel
  obtain ⟨generator, configured, settled⟩ := Option.any_eq_true _ _ |>.mp evaluated
  simp only [Bool.and_eq_true, decide_eq_true_eq] at settled
  obtain ⟨⟨⟨⟨host, texts⟩, truths⟩, ok⟩, written⟩ := settled
  replace configured := toOption_eq_some_iff.mp configured
  cases answered : generator.answer listSample with
  | error => simp [answered, Except.isOk, Except.toBool] at ok
  | ok generation =>
    obtain ⟨-, unit, -⟩ := imports_exact configured host
    obtain ⟨-, imports, -⟩ := unit listSample generation answered
    refine ⟨generator, generation, configured, host, answered, written, ?_⟩
    refine (imports.eq_iff fun text member mentions => ?_).mpr ?_
    · rw [written] at member
      rcases List.mem_pair.mp member with rfl | rfl
      · exact absurd mentions (by decide)
      · exact ⟨by decide, by rw [texts]; decide, by rw [truths]; decide⟩
    · rw [written]
      exact ⟨"[]*js.Object", by simp, by decide⟩

end HostBindings.Generator
