import HostBindings.Proofs.Emission.Drain
import HostBindings.Proofs.Runs.Blocks

/-!
# The sections of a unit

Where all blocks go to one unit and no sink fails, the unit gets one section for each block that is
generated, in the order of the blocks. A section has what the pass of its block wrote: the constants
of the events, the structure, and the nested declarations in the order of their names.

## Main definitions

* `Generator.Wrote` — what a pass wrote, as a section
* `Generator.generatedBlocks` — the blocks that were generated
* `Generator.UnitSections` — the sections of a unit between two blocks
* `Generator.unitOf` — the unit that a description goes to

## Main results

* `Generator.UnitSections.runBlock`, `Generator.UnitSections.blocks` — one block, and all of them
-/

namespace HostBindings

open Api (Block Schema)

/-- Nothing but a commit changes a unit whose sinks never fail. -/
theorem Destination.Keeps.unit_eq {before after : DeclarationUnit}
    (keeps : Destination.toUnit.Keeps before after) : after = before := by
  induction keeps with
  | refl => rfl
  | opened _ _ _ same => exact same
  | released _ _ same => exact same
  | refused failed => cases failed

namespace Generator

variable {generator : Generator} {block : Block} {start pass : Pass}

/-! ### Sections -/

/-- A pass of a block wrote a section: the constants of the events and the structure of the block,
then a declaration for every entity that got a name, in the order of the names. What the section
declares is the symbol of the block and the names that the pass claimed. -/
structure Wrote (generator : Generator) (block : Block) (start pass : Pass) (entry : Section) :
    Prop where
  /-- The pass is one of the block. -/
  started : ∃ reserved, Pass.start generator block reserved = .ok start
  /-- It succeeded. -/
  succeeded : ∃ count, Emit.Runs (generator.emission block) start count pass
  /-- The declarations are those of the pass. -/
  declarations : entry.declarations = pass.sink.declarations
  /-- The text is the text of the declarations. -/
  text : entry.text = Code.textOf entry.declarations
  /-- The declarations of the block come first. -/
  order : ∃ primary nested, entry.declarations = primary ++ nested ∧
    generator.PrimaryFor pass.allocated block start.scope.symbol primary ∧
    List.Forall₂ (generator.DeclarationFor pass.allocated) pass.declared nested
  /-- All entities that got a name are declared. -/
  allocated : pass.allocated = pass.declared.map (·.name)
  /-- The names are those of the context. -/
  names : ∃ claimed, pass.scope.names = start.scope.names ++ claimed ∧
    entry.names.Perm (start.scope.symbol :: claimed)

/-- A pass that succeeds wrote the section that its sink commits. -/
theorem wrote_of_runs {reserved : List String} {count : Nat}
    (builtin : generator.templates = .builtin)
    (started : Pass.start generator block reserved = .ok start)
    (run : Emit.Runs (generator.emission block) start count pass) :
    generator.Wrote block start pass
      ⟨pass.sink.blockName, pass.sink.text, pass.sink.declarations⟩ := by
  obtain ⟨primary, nested, fits, progress, empty, -⟩ := progress_emission builtin started run
  obtain ⟨claimed, names, -, -, perm⟩ := progress.accounts
  constructor
  · exact ⟨reserved, started⟩
  · exact ⟨count, run⟩
  · rfl
  · exact progress.prints.text
  · exact ⟨primary, nested, progress.written, fits, progress.nested⟩
  · simpa [empty] using progress.waits.allocated
  · rw [empty, List.map_nil, List.append_nil, ← progress.written] at perm
    exact ⟨claimed, names, perm⟩

/-- The section of a block. -/
def SectionOf (generator : Generator) (block : Block) (entry : Section) : Prop :=
  ∃ start pass, generator.Wrote block start pass entry

/-! ### One block -/

/-- The blocks whose outcome says that they were generated, in order. -/
def generatedBlocks (blocks : List Block) (outcomes : List Outcome) : List Block :=
  (blocks.zip outcomes).filterMap fun (block, outcome) =>
    if outcome.result.isGenerated then some block else none

theorem generatedBlocks_cons (block : Block) (rest : List Block) (outcome : Outcome)
    (more : List Outcome) :
    generatedBlocks (block :: rest) (outcome :: more) =
      generatedBlocks [block] [outcome] ++ generatedBlocks rest more := by
  rw [generatedBlocks, List.zip_cons_cons, ← List.singleton_append, List.filterMap_append]
  rfl

/-- There are as many of these blocks as outcomes that say so. -/
theorem length_generatedBlocks {blocks : List Block} {outcomes : List Outcome}
    (length : blocks.length = outcomes.length) :
    (generatedBlocks blocks outcomes).length = (outcomes.filter (·.result.isGenerated)).length := by
  induction blocks generalizing outcomes with
  | nil =>
    have none : outcomes = [] := List.eq_nil_of_length_eq_zero length.symm
    rw [none]
    rfl
  | cons block rest ih =>
    obtain ⟨outcome, more, rfl⟩ := List.exists_cons_of_length_eq_add_one length.symm
    have others := ih (Nat.succ.inj length)
    rw [generatedBlocks_cons, List.length_append, others, List.filter_cons]
    by_cases generated : outcome.result.isGenerated
    · simp [generatedBlocks, generated, Nat.add_comm]
    · simp [generatedBlocks, generated]

theorem generatedBlocks_subset (blocks : List Block) (outcomes : List Outcome) :
    generatedBlocks blocks outcomes ⊆ blocks := by
  intro block member
  obtain ⟨pair, there, kept⟩ := List.mem_filterMap.mp member
  rw [Option.ite_none_right_eq_some, Option.some.injEq] at kept
  rw [← kept.2]
  exact (List.of_mem_zip there).1

/-- A unit between two blocks: it has a section for each of the blocks `done`, and imports nothing
but the host package. -/
structure UnitSections (generator : Generator) (source : Json) (done : List Block)
    (unit : DeclarationUnit) : Prop where
  /-- A section for each block. -/
  sections : List.Forall₂ generator.SectionOf done unit.sections
  /-- The name of the document. -/
  source : unit.source = source
  /-- The imports. -/
  imports : generator.HostOnly unit.imports

/-- Imports of the host package are united to such imports. -/
theorem HostOnly.unite {imports more : List Json} (only : generator.HostOnly imports)
    (others : generator.HostOnly more) : generator.HostOnly (Json.unite imports more) := by
  rcases others with rfl | rfl
  · exact only
  · exact only.add

/-- A generated block adds its section. -/
theorem UnitSections.commit {source : Json} {done : List Block} {unit : DeclarationUnit}
    {reserved : List String} {count : Nat} (builtin : generator.templates = .builtin)
    (sections : generator.UnitSections source done unit)
    (started : Pass.start generator block reserved = .ok start)
    (run : Emit.Runs (generator.emission block) start count pass) :
    generator.UnitSections source (done ++ [block]) (unit.commit pass.sink) where
  sections := by
    have entry : generator.SectionOf block _ := ⟨start, pass, wrote_of_runs builtin started run⟩
    exact List.rel_append sections.sections (.cons entry .nil)
  source := sections.source
  imports := by
    obtain ⟨_, _, -, progress, -⟩ := progress_emission builtin started run
    exact sections.imports.unite progress.imports

/-- One block: its section is added if it is generated, and nothing otherwise. -/
theorem UnitSections.runBlock {source : Json} {done : List Block}
    {before after : RunState DeclarationUnit} (builtin : generator.templates = .builtin)
    (sections : generator.UnitSections source done before.destination)
    (ended : generator.BlockEnd .toUnit true block before (.ok ()) after) :
    ∃ outcome, after.outcomes = before.outcomes ++ [outcome] ∧
      generator.UnitSections source (done ++ generatedBlocks [block] [outcome])
        after.destination := by
  cases ended with
  | skipped _ same adds =>
    refine ⟨_, adds.outcomes, ?_⟩
    rw [same]
    simpa [generatedBlocks, BlockResult.isGenerated] using sections
  | failed fault _ keeps adds =>
    refine ⟨_, adds.outcomes, ?_⟩
    rw [keeps.unit_eq]
    simpa [generatedBlocks, BlockResult.isGenerated] using sections
  | generated prepared run keeps committed adds =>
    obtain ⟨-, started⟩ := prepare_eq_some.mp prepared
    refine ⟨_, adds.outcomes, ?_⟩
    have unit := (Prod.mk.inj committed).2
    rw [← unit, keeps.unit_eq]
    exact sections.commit builtin started run

/-! ### All blocks -/

/-- The blocks of a run: the sections of the generated ones are added, in order. -/
theorem UnitSections.blocks {source : Json} {done blocks : List Block}
    {before after : RunState DeclarationUnit} (builtin : generator.templates = .builtin)
    (sections : generator.UnitSections source done before.destination)
    (ran : (blocks.forM (generator.runBlock .toUnit true)).outcome before = (.ok (), after)) :
    ∃ outcomes, after.outcomes = before.outcomes ++ outcomes ∧
      blocks.length = outcomes.length ∧
      generator.UnitSections source (done ++ generatedBlocks blocks outcomes)
        after.destination := by
  -- the blocks that are done already grow by the first one if that is generated
  induction blocks generalizing before done with
  | nil =>
    cases ran
    exact ⟨[], by simp, rfl, by simpa [generatedBlocks] using sections⟩
  | cons block rest ih =>
    have ended := blockEnd_runBlock generator .toUnit true block before
    rw [Running.outcome_forM_cons] at ran
    rcases step : (generator.runBlock .toUnit true block).outcome before with ⟨_ | _, middle⟩
    · rw [step] at ran
      cases ran
    · rw [step] at ran ended
      obtain ⟨outcome, one, next⟩ := sections.runBlock builtin ended
      obtain ⟨outcomes, all, length, final⟩ := ih next ran
      refine ⟨outcome :: outcomes, ?_, congrArg (· + 1) length, ?_⟩
      · rw [all, one, List.append_assoc]
        rfl
      · rw [generatedBlocks_cons, ← List.append_assoc]
        exact final

/-- The unit that a description goes to. -/
def unitOf (generator : Generator) (schema : Schema) : DeclarationUnit :=
  ((generator.run .toUnit true schema).outcome
    { destination := { source := schema.source } }).2.destination

/-- A run that comes to its end has written the sections of the blocks that were generated. -/
theorem unitSections_run {schema : Schema} {report : RunReport} {state : RunState DeclarationUnit}
    (builtin : generator.templates = .builtin)
    (ran : (generator.run .toUnit true schema).outcome
      { destination := { source := schema.source } } = (.ok report, state)) :
    schema.blocks.length = report.outcomes.length ∧
      generator.UnitSections schema.source (generatedBlocks schema.blocks report.outcomes)
        (generator.unitOf schema) := by
  have first : generator.UnitSections schema.source [] { source := schema.source } :=
    ⟨.nil, rfl, .inl rfl⟩
  rw [unitOf, ran]
  rw [run_eq, outcome_runThrough] at ran
  split at ran
  · cases ran
  · split at ran
    next => cases ran
    next finished =>
      cases ran
      obtain ⟨outcomes, same, length, final⟩ := first.blocks builtin finished
      rw [List.nil_append] at same final
      exact ⟨by rw [reportOf, same, length], by rw [reportOf, same]; exact final⟩

end Generator

end HostBindings
