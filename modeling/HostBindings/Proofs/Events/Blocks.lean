import HostBindings.Proofs.Events.Passes
import HostBindings.Proofs.Runs.Ends

/-!
# What blocks add to the report of a run

A report is made block by block: each block adds an outcome, and the warnings of its pass if it has
one. This file takes the report of a run into a unit apart into what its blocks added, and says what
that can be under settings that serve every name and every type: a block is skipped, it fails by a
suspicious event name, or it is generated.

## Main definitions

* `ReportPart`, `Generator.parts` — what the blocks of a run add to its report
* `Generator.Decides` — settings that allow or skip every block
* `Generator.Comes` — what becomes of a block, with its warnings
* `Generator.ReportOf` — a report as what the blocks added

## Main results

* `Generator.Supplies.exists_parts` — the parts of a run, one for each block
* `Generator.Supplies.exists_report` — the report that they make
-/

namespace HostBindings

open Api (Block Schema)

/-- What a block adds to the report of a run. -/
structure ReportPart where
  /-- The outcomes. -/
  outcomes : List Outcome
  /-- The warnings. -/
  warnings : List String

namespace Generator

variable {generator : Generator} {block : Block}

/-- What blocks add to the report of a run into a unit, one after another, up to the block that ends
the run. -/
def partsFrom (generator : Generator) (shared : Bool) :
    List Block → RunState DeclarationUnit → List ReportPart
  | [], _ => []
  | block :: rest, state =>
    let (result, after) := (generator.runBlock .toUnit shared block).outcome state
    let part : ReportPart :=
      { outcomes := after.outcomes.drop state.outcomes.length
        warnings := after.warnings.drop state.warnings.length }
    match result with
    | .ok _ => part :: partsFrom generator shared rest after
    | .error _ => [part]

/-- What the blocks of a description add to the report of its run. -/
def parts (generator : Generator) (shared : Bool) (schema : Schema) : List ReportPart :=
  match generator.blockSymbols schema with
  | .error _ => []
  | .ok symbols =>
    generator.partsFrom shared schema.blocks
      { destination := { source := schema.source }, reserved := symbols }

/-- Settings with which every block is allowed or skipped. -/
def Decides (generator : Generator) : Prop :=
  ∀ block : Block, ∃ allowed, generator.settings.allows block.info.processes = .ok allowed

/-- What becomes of a block whose destination is never refused, with its warnings. -/
inductive Comes (generator : Generator) (block : Block) : BlockResult → List String → Prop where
  /-- The block is skipped. -/
  | skipped : generator.settings.allows block.info.processes = .ok false →
      Comes generator block (.skipped generator.settings.processFilter.text) []
  /-- Its pass fails. -/
  | failed {reserved : List String} {start pass : Pass} {fault : PassFault} :
      generator.settings.allows block.info.processes = .ok true →
      Pass.start generator block reserved = .ok start →
      (generator.emission block).outcome start = (.error fault, pass) →
      Comes generator block (.failed (.pass fault)) pass.warnings
  /-- Its pass succeeds. -/
  | generated {reserved : List String} {start pass : Pass} {nested : Nat} :
      generator.settings.allows block.info.processes = .ok true →
      Pass.start generator block reserved = .ok start →
      Emit.Runs (generator.emission block) start nested pass →
      Comes generator block (.generated nested) pass.warnings

/-- A part of a report with what became of a block. -/
def PartFor (generator : Generator) (block : Block) (part : ReportPart) : Prop :=
  ∃ result, part.outcomes = [⟨block.name, result⟩] ∧ generator.Comes block result part.warnings

/-- The report of a run into a unit, as what the blocks added to it. -/
structure ReportOf (generator : Generator) (shared : Bool) (schema : Schema) (report : RunReport)
    (after : RunState DeclarationUnit) : Prop where
  /-- The run ends with the report. -/
  ran : (generator.run .toUnit shared schema).outcome
    { destination := { source := schema.source } } = (.ok report, after)
  /-- The outcomes of the report are those of its parts. -/
  outcomes : report.outcomes = (generator.parts shared schema).flatMap (·.outcomes)
  /-- So are its warnings. -/
  warnings : report.warnings = (generator.parts shared schema).flatMap (·.warnings)
  /-- There is a part for every block. -/
  blocks : List.Forall₂ generator.PartFor schema.blocks (generator.parts shared schema)

/-- What is true of every block and its outcome is true of a report. -/
theorem ReportOf.forall₂_outcomes {shared : Bool} {schema : Schema} {report : RunReport}
    {after : RunState DeclarationUnit} (made : generator.ReportOf shared schema report after)
    {Fits : Block → Outcome → Prop}
    (each : ∀ block result warnings, generator.Comes block result warnings →
      Fits block ⟨block.name, result⟩) :
    List.Forall₂ Fits schema.blocks report.outcomes := by
  have flat {blocks : List Block} {parts : List ReportPart}
      (fits : List.Forall₂ generator.PartFor blocks parts) :
      List.Forall₂ Fits blocks (parts.flatMap (·.outcomes)) := by
    induction fits with
    | nil => exact .nil
    | cons first _ ih =>
      obtain ⟨result, one, comes⟩ := first
      rw [List.flatMap_cons, one]
      exact .cons (each _ _ _ comes) ih
  exact made.outcomes ▸ flat made.blocks

namespace Supplies

variable (supplies : generator.Supplies)

include supplies

theorem spells : generator.Spells := supplies.serves_lenient.exists_baseSymbol

variable (decides : generator.Decides)

include decides

/-- A block adds one outcome and its warnings, and does not end the run. -/
theorem exists_part (shared : Bool) (block : Block) (state : RunState DeclarationUnit) :
    ∃ after result warnings,
      (generator.runBlock .toUnit shared block).outcome state = (.ok (), after) ∧
      after.outcomes = state.outcomes ++ [⟨block.name, result⟩] ∧
      after.warnings = state.warnings ++ warnings ∧ generator.Comes block result warnings := by
  obtain ⟨allowed, found⟩ := decides block
  cases allowed with
  | false =>
    have prepared : generator.prepare block state.reserved = .ok none := prepare_eq_none.mpr found
    rw [outcome_runBlock, prepared]
    exact ⟨_, _, [], rfl, rfl, (List.append_nil _).symm, .skipped found⟩
  | true =>
    obtain ⟨start, started⟩ := supplies.exists_start block state.reserved
    have prepared := prepare_eq_some.mpr ⟨found, started⟩
    simp only [outcome_runBlock, prepared, Destination.toUnit, outcome_runPass]
    rcases emitted : (generator.emission block).outcome start with ⟨fault | nested, pass⟩
    · exact ⟨_, _, _, rfl, rfl, rfl, .failed found started emitted⟩
    · simp only [outcome_commitPass]
      exact ⟨_, _, _, rfl, rfl, rfl, .generated found started emitted⟩

/-- Blocks add a part each. -/
theorem exists_partsFrom (shared : Bool) (blocks : List Block) (state : RunState DeclarationUnit) :
    ∃ after,
      (blocks.forM (generator.runBlock .toUnit shared)).outcome state = (.ok (), after) ∧
      after.outcomes =
        state.outcomes ++ (generator.partsFrom shared blocks state).flatMap (·.outcomes) ∧
      after.warnings =
        state.warnings ++ (generator.partsFrom shared blocks state).flatMap (·.warnings) ∧
      List.Forall₂ generator.PartFor blocks (generator.partsFrom shared blocks state) := by
  induction blocks generalizing state with
  | nil => exact ⟨state, rfl, (List.append_nil _).symm, (List.append_nil _).symm, .nil⟩
  | cons block rest ih =>
    obtain ⟨middle, result, warnings, ran, one, warned, comes⟩ :=
      supplies.exists_part decides shared block state
    obtain ⟨after, others, all, more, fits⟩ := ih middle
    have part : generator.partsFrom shared (block :: rest) state =
        ⟨[⟨block.name, result⟩], warnings⟩ :: generator.partsFrom shared rest middle := by
      simp only [partsFrom, ran, one, warned, List.drop_left]
    refine ⟨after, ?_, ?_, ?_, ?_⟩
    · rw [Running.outcome_forM_cons, ran]
      exact others
    · rw [all, one, part, List.flatMap_cons, List.append_assoc]
    · rw [more, warned, part, List.flatMap_cons, List.append_assoc]
    · rw [part]
      exact .cons ⟨result, rfl, comes⟩ fits

/-- A run has a report, which is made of what the blocks added. -/
theorem exists_report (shared : Bool) (schema : Schema) :
    ∃ report after, generator.ReportOf shared schema report after := by
  obtain ⟨symbols, known⟩ := supplies.spells.exists_blockSymbols schema
  obtain ⟨after, ran, outcomes, warnings, fits⟩ := supplies.exists_partsFrom decides shared
    schema.blocks { destination := { source := schema.source }, reserved := symbols }
  rw [List.nil_append] at outcomes warnings
  have parts : generator.parts shared schema = generator.partsFrom shared schema.blocks
      { destination := { source := schema.source }, reserved := symbols } := by
    rw [parts, known]
  have done : (generator.run .toUnit shared schema).outcome
      { destination := { source := schema.source } } =
        (.ok (reportOf schema after),
          { after with log := after.log ++ [⟨.info, (reportOf schema after).summary⟩] }) := by
    rw [run_eq, outcome_runThrough, known]
    simp only [ran]
  exact ⟨_, _, done, parts ▸ outcomes, parts ▸ warnings, parts ▸ fits⟩

end Supplies

/-! ### Modes -/

/-- What becomes of a block in strict mode: it is skipped, or its first suspicious event name fails
it, or it has none and is generated. -/
theorem Comes.strict_cases {result : BlockResult} {warnings : List String}
    (comes : generator.Comes block result warnings) (supplies : generator.Supplies)
    (strict : generator.settings.strictEvents = true) :
    (generator.settings.allows block.info.processes = .ok false ∧
        result = .skipped generator.settings.processFilter.text) ∨
      (generator.settings.allows block.info.processes = .ok true ∧
        match suspect? block with
        | some name => result = .failed (.pass (.suspiciousEvent name))
        | none => ∃ nested, result = .generated nested) := by
  -- a suspicious name settles the end of the pass, and so does that there is none
  cases comes with
  | skipped forbidden => exact .inl ⟨forbidden, rfl⟩
  | @failed _ start pass fault allowed started failed =>
    refine .inr ⟨allowed, ?_⟩
    cases suspect : suspect? block with
    | some name =>
      obtain ⟨_, refused⟩ := supplies.outcome_emission_strict strict suspect start
      cases failed.symm.trans refused
      rfl
    | none =>
      obtain ⟨_, _, run⟩ := supplies.exists_runs_of_plain suspect started
      cases failed.symm.trans run
  | @generated _ start pass nested allowed started run =>
    refine .inr ⟨allowed, ?_⟩
    cases suspect : suspect? block with
    | some name =>
      obtain ⟨_, refused⟩ := supplies.outcome_emission_strict strict suspect start
      cases refused.symm.trans run
    | none => exact ⟨nested, rfl⟩

theorem Comes.isFailed_iff {result : BlockResult} {warnings : List String}
    (comes : generator.Comes block result warnings) (supplies : generator.Supplies)
    (strict : generator.settings.strictEvents = true) :
    result.isFailed = true ↔
      generator.settings.allows block.info.processes = .ok true ∧ (suspect? block).isSome := by
  rcases comes.strict_cases supplies strict with ⟨forbidden, rfl⟩ | ⟨allowed, ended⟩
  · simp [forbidden, BlockResult.isFailed]
  · cases suspect : suspect? block with
    | some name =>
      simp only [suspect] at ended
      subst ended
      simp [allowed, BlockResult.isFailed]
    | none =>
      simp only [suspect] at ended
      obtain ⟨nested, rfl⟩ := ended
      simp [BlockResult.isFailed]

/-- A warning of a suspicious event name. -/
def IsSuspicion (warning : String) : Prop := "suspicious event name ".toList <+: warning.toList

theorem isSuspicion_remark (name : String) : IsSuspicion (suspiciousEventRemark name) :=
  ⟨(Text.display name).toList, String.toList_append.symm⟩

theorem not_isSuspicion_of_mem_pendingRemarks {pending : Pending} {warning : String}
    (member : warning ∈ generator.pendingRemarks pending) : ¬ IsSuspicion warning := by
  simp only [pendingRemarks] at member
  split at member
  · split at member
    · rw [List.mem_singleton.mp member]
      simp [IsSuspicion, toString]
    · cases member
  · cases member

theorem isSome_suspect?_iff :
    (suspect? block).isSome ↔ ∃ event ∈ blockEvents block, isSuspicious event = true := by
  rw [suspect?, Option.isSome_map, List.find?_isSome]

/-- In another mode a block is warned of exactly if it is allowed and has a suspicious event
name. -/
theorem Comes.exists_suspicion_iff {result : BlockResult} {warnings : List String}
    (comes : generator.Comes block result warnings) (supplies : generator.Supplies)
    (lenient : generator.settings.strictEvents = false) :
    (∃ warning ∈ warnings, IsSuspicion warning) ↔
      generator.settings.allows block.info.processes = .ok true ∧ (suspect? block).isSome := by
  cases comes with
  | skipped forbidden => simp [forbidden]
  | failed _ started failed =>
    obtain ⟨_, _, run⟩ := supplies.exists_runs_of_lenient lenient started
    cases failed.symm.trans run
  | generated allowed started run =>
    rw [warnings_emission started run, isSome_suspect?_iff]
    refine ⟨?_, ?_⟩
    · rintro ⟨warning, member, suspicion⟩
      rcases List.mem_append.mp member with early | late
      · obtain ⟨event, listed, -⟩ := List.mem_map.mp early
        obtain ⟨there, suspicious⟩ := List.mem_filter.mp listed
        exact ⟨allowed, event, there, suspicious⟩
      · obtain ⟨pending, -, remark⟩ := List.mem_flatMap.mp late
        exact absurd suspicion (not_isSuspicion_of_mem_pendingRemarks remark)
    · rintro ⟨-, event, there, suspicious⟩
      refine ⟨_, List.mem_append_left _ (List.mem_map_of_mem (List.mem_filter.mpr
        ⟨there, suspicious⟩)), isSuspicion_remark _⟩

/-- Where a block is skipped or has no suspicious event name, the mode does not matter. -/
theorem runBlock_withMode {σ η : Type} (mode : Json) (destination : Destination σ η)
    (shared : Bool)
    (same : generator.settings.allows block.info.processes = .ok false ∨ suspect? block = none) :
    (generator.withMode mode).runBlock destination shared block =
      generator.runBlock destination shared block := by
  have allows : (generator.withMode mode).settings.allows block.info.processes =
      generator.settings.allows block.info.processes := rfl
  have skip : (generator.withMode mode).passOver block =
      (generator.passOver block : Running σ Unit) := rfl
  rcases same with forbidden | none
  · simp only [runBlock, allows, forbidden, skip, Running.setting, pure_bind, Bool.not_false,
      if_true]
  · have pass (start : Pass) (handle : η) :
        (generator.withMode mode).runPass destination shared block start handle =
          generator.runPass destination shared block start handle := by
      simp only [runPass, emission_withMode mode none]
    have start (reserved : List String) : Pass.start (generator.withMode mode) block reserved =
        Pass.start generator block reserved := rfl
    simp only [runBlock, allows, skip, pass, start]

end Generator

end HostBindings
