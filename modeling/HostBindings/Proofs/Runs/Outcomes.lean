import HostBindings.Proofs.Layout.Units
import HostBindings.Proofs.Runs.Ends
import HostBindings.Proofs.Runs.Nested

/-!
# The outcomes of a run

Under settings of the declared types no run ends before its last block, and every block lands in
one of three places: it is left out where the settings name a process that it is not marked for,
it is generated where its text was written and taken, and it fails otherwise. A unit has the blocks
that were generated, and the counts of a report add up.

## Main definitions

* `Settings.IsTyped` — settings of the declared types
* `Settings.LeavesOut` — blocks that are not marked for the process of the settings
* `Destination.Fills` — a destination that keeps a unit
* `RunState.Tallies` — a unit that has the generated blocks

## Main results

* `RunReport.length_outcomes` — the counts of a report add up
* `Destination.Fills.blocks` — the blocks of a unit
* `Generator.run_accounts`
-/

namespace HostBindings

open Api (Block Processes Schema)
open Destination (Use)

variable {σ η : Type}

/-! ### Settings of the declared types -/

/-- Corrections of spelling as they are declared: pairs of texts, if there are any. -/
inductive Json.IsCorrections : Json → Prop where
  /-- No corrections. -/
  | none : IsCorrections .null
  /-- A list of pairs. -/
  | pairs (corrections : List (String × String)) :
      IsCorrections (.array (corrections.map fun pair => .array [.string pair.1, .string pair.2]))

/-- Such corrections are read as rules that are pairs of texts. -/
theorem Json.IsCorrections.exists_readCorrections {value : Json}
    (corrections : value.IsCorrections) : ∃ pairs : List (String × String),
      Naming.readCorrections value = .ok (pairs.map Naming.LooseRule.ofPair) := by
  cases corrections with
  | none => exact ⟨[], rfl⟩
  | pairs corrections =>
    have items : Json.itemsIfOn (.array (corrections.map fun pair =>
        .array [.string pair.1, .string pair.2])) =
        .ok (corrections.map fun pair => .array [.string pair.1, .string pair.2]) := by
      cases corrections <;> rfl
    refine ⟨corrections, ?_⟩
    rw [Naming.readCorrections, items]
    change List.mapM Json.items _ = _
    rw [List.mapM_map]
    exact List.mapM_pure

/-- Pairs of texts behind the default corrections make a normalizer. -/
theorem Naming.Scheme.exists_plain (pairs : List (String × String)) (suffix : String) :
    ∃ normalizer, Scheme.ofTables (.ofCorrections (pairs.map LooseRule.ofPair) (.string suffix)) =
      .plain normalizer := by
  have read : (Tables.ofCorrections (pairs.map LooseRule.ofPair) (.string suffix)).corrections =
      (defaultCorrections ++ pairs).map LooseRule.ofPair := by
    rw [List.map_append]
    rfl
  have proper : ((defaultCorrections ++ pairs).map LooseRule.ofPair).mapM LooseRule.toPair? =
      some (defaultCorrections ++ pairs) := by
    rw [List.mapM_map]
    exact (List.mapM_pure (m := Option)).trans (congrArg some (List.map_id _))
  refine ⟨{ corrections := defaultCorrections ++ pairs, moduleSuffix := suffix }, ?_⟩
  rw [Scheme.ofTables, Tables.normalizer?, read, proper]
  rfl

/-- Names are made by a normalizer where the suffix of modules is a text and the corrections are
pairs of texts. -/
theorem Generator.exists_normalizer {settings : Settings} {generator : Generator}
    (suffix : ∃ suffix, settings.moduleSuffix = .string suffix)
    (custom : ∃ members, settings.custom = .object members ∧
      ((members.lookup "acronyms").getD .null).IsCorrections)
    (configured : Generator.ofSettings settings = .ok generator) :
    ∃ normalizer, generator.naming = .plain normalizer := by
  obtain ⟨members, custom, corrections⟩ := custom
  obtain ⟨suffix, isText⟩ := suffix
  obtain ⟨extra, _, read, -, rfl⟩ := Generator.ofSettings_eq_ok.mp configured
  rw [Generator.correctionsOf, custom] at read
  obtain ⟨pairs, same⟩ := corrections.exists_readCorrections
  cases same.symm.trans read
  rw [isText]
  exact Naming.Scheme.exists_plain pairs suffix

/-- Settings of the declared types, as far as the end of a run depends on them. Where another
setting is of a wrong type, blocks fail, but the run goes on. -/
structure Settings.IsTyped (settings : Settings) : Prop where
  /-- The package has a name. -/
  package : ∃ name, settings.packageName = .string name
  /-- The suffix of modules is a text. -/
  suffix : ∃ suffix, settings.moduleSuffix = .string suffix
  /-- No process is chosen, or one of the two. -/
  process : settings.processFilter ∈ [.null, .string "main", .string "renderer"]
  /-- The settings of the language are members, and their corrections are pairs of texts. -/
  custom : ∃ members, settings.custom = .object members ∧
    ((members.lookup "acronyms").getD .null).IsCorrections

/-- Marks that have the one of a process. -/
def Api.Processes.HasMark (processes : Processes) (process : String) : Prop :=
  (process = "main" ∧ processes.main = true) ∨ (process = "renderer" ∧ processes.renderer = true)

/-- A process is chosen, and a block is marked, but not for that process. -/
def Settings.LeavesOut (settings : Settings) (block : Block) : Prop :=
  ∃ process, settings.processFilter = .string process ∧
    block.info.processes.restricted = true ∧ ¬ block.info.processes.HasMark process

namespace Settings.IsTyped

variable {settings : Settings} (typed : settings.IsTyped)

include typed

/-- Blocks are allowed or left out. -/
theorem exists_allows (block : Block) :
    ∃ allowed, settings.allows block.info.processes = .ok allowed ∧
      (allowed = false ↔ settings.LeavesOut block) := by
  have process := typed.process
  simp only [List.mem_cons, List.not_mem_nil, or_false] at process
  -- what is chosen, and how the block is marked
  rcases process with chosen | chosen | chosen <;>
    rcases marks : block.info.processes with ⟨_ | _, _ | _⟩ <;>
    simp [allows, LeavesOut, chosen, marks, Processes.allowValue, Processes.allow,
      Processes.restricted, Processes.HasMark, Json.truthy]

/-- Names are made by a normalizer. -/
theorem exists_normalizer {generator : Generator}
    (configured : Generator.ofSettings settings = .ok generator) :
    ∃ normalizer, generator.naming = .plain normalizer :=
  Generator.exists_normalizer typed.suffix typed.custom configured

/-- Every entity has a symbol. -/
theorem spells {generator : Generator}
    (configured : Generator.ofSettings settings = .ok generator) : generator.Spells := by
  intro info
  obtain ⟨normalizer, plain⟩ := typed.exists_normalizer configured
  exact ⟨_, by rw [Generator.baseSymbol, plain]; rfl⟩

/-- Every block is prepared. -/
theorem prepares {generator : Generator}
    (configured : Generator.ofSettings settings = .ok generator) : generator.Prepares := by
  intro block reserved
  obtain ⟨normalizer, plain⟩ := typed.exists_normalizer configured
  obtain ⟨allowed, found, -⟩ := typed.exists_allows block
  rw [← Generator.settings_ofSettings configured] at found
  cases allowed with
  | false => exact ⟨none, Generator.prepare_eq_none.mpr found⟩
  | true =>
    have symbol : generator.baseSymbol block.info = .ok (normalizer.baseSymbol block.info) := by
      rw [Generator.baseSymbol, plain]
      rfl
    have stem : generator.stem block.info = .ok (normalizer.stem block.info) := by
      rw [Generator.stem, plain]
      rfl
    exact ⟨some _, Generator.prepare_eq_some.mpr
      ⟨found, Generator.start_eq_ok.mpr ⟨_, _, symbol, stem, rfl⟩⟩⟩

end Settings.IsTyped

/-! ### Counts -/

/-- Every outcome is counted once. -/
theorem RunReport.length_outcomes (report : RunReport) :
    report.generated.length + report.skipped.length + report.failed.length =
      report.outcomes.length := by
  unfold generated skipped failed
  induction report.outcomes with
  | nil => rfl
  | cons outcome rest ih =>
    simp only [List.filter_cons, List.length_cons]
    cases outcome.result <;>
      grind [BlockResult.isGenerated, BlockResult.isSkipped, BlockResult.isFailed]

/-! ### The blocks of a unit -/

/-- A destination that keeps a unit in its state, which nothing but an accepted commit changes. -/
structure Destination.Fills (destination : Destination σ η) (unitIn : σ → DeclarationUnit) :
    Prop where
  /-- Openings, releases and refused commits leave the unit as it is. -/
  kept : ∀ {before after}, destination.Keeps before after → unitIn after = unitIn before
  /-- An accepted commit adds its text. -/
  committed : ∀ {handle sink before after},
    destination.commit handle sink before = (.ok (), after) →
    unitIn after = (unitIn before).commit sink

theorem Destination.fills_toUnit : Destination.toUnit.Fills id where
  kept keeps := keeps.unit_eq
  committed committed := (Prod.mk.inj committed).2.symm

theorem Destination.fills_toUnitWith {τ : Type} (faults : Faults τ) :
    (Destination.toUnitWith faults).Fills Prod.fst where
  kept keeps := keeps.unit
  committed committed := commit_toUnitWith committed

/-- The unit of a run has the blocks that were generated so far, in order. -/
def RunState.Tallies (state : RunState σ) (unitIn : σ → DeclarationUnit) : Prop :=
  (unitIn state.destination).blockNames =
    (state.outcomes.filter (·.result.isGenerated)).map (·.name)

namespace Destination.Fills

variable {destination : Destination σ η} {unitIn : σ → DeclarationUnit} {generator : Generator}

/-- A block that does not reach the unit is not generated. -/
theorem tallies_of_kept {before after : RunState σ} {reserved : List String}
    {outcomes : List Outcome} (tallies : before.Tallies unitIn)
    (unit : unitIn after.destination = unitIn before.destination)
    (adds : before.Adds after reserved outcomes)
    (none : outcomes.filter (·.result.isGenerated) = []) : after.Tallies unitIn := by
  rw [RunState.Tallies, unit, adds.outcomes, List.filter_append, none, List.append_nil]
  exact tallies

/-- One block. -/
theorem runBlock (fills : destination.Fills unitIn) (builtin : generator.templates = .builtin)
    {shared : Bool} {block : Block} {before after : RunState σ} {result : Except Interruption Unit}
    (tallies : before.Tallies unitIn)
    (ended : generator.BlockEnd destination shared block before result after) :
    after.Tallies unitIn := by
  cases ended with
  | unprepared _ same adds => exact tallies_of_kept tallies (congrArg unitIn same) adds rfl
  | skipped _ same adds => exact tallies_of_kept tallies (congrArg unitIn same) adds rfl
  | lost _ _ keeps adds => exact tallies_of_kept tallies (fills.kept keeps) adds rfl
  | failed _ _ keeps adds => exact tallies_of_kept tallies (fills.kept keeps) adds rfl
  | generated prepared run keeps committed adds =>
    -- the sink that is committed is that of the block
    obtain ⟨-, started⟩ := Generator.prepare_eq_some.mp prepared
    have named := Generator.blockName_of_runs builtin started run
    have unit := fills.committed committed
    rw [fills.kept keeps] at unit
    rw [RunState.Tallies, unit, adds.outcomes, List.filter_append, List.map_append, ← tallies]
    simp [DeclarationUnit.commit, DeclarationUnit.blockNames, named, BlockResult.isGenerated]

/-- All blocks. -/
theorem blocks (fills : destination.Fills unitIn) (builtin : generator.templates = .builtin)
    (shared : Bool) (blocks : List Block) {before : RunState σ} (tallies : before.Tallies unitIn) :
    ((blocks.forM (generator.runBlock destination shared)).outcome before).2.Tallies unitIn :=
  Generator.holds_blocks (·.Tallies unitIn) (fun block _ _ tallies =>
    fills.runBlock builtin tallies
      (Generator.blockEnd_runBlock generator destination shared block _)) tallies

/-- A run into an empty unit leaves the generated blocks in it. -/
theorem blockNames_of_run (fills : destination.Fills unitIn)
    (builtin : generator.templates = .builtin) {shared : Bool} {schema : Schema} {start : σ}
    (empty : (unitIn start).sections = []) {report : RunReport} {after : RunState σ}
    (ran : (generator.run destination shared schema).outcome { destination := start } =
      (.ok report, after)) :
    (unitIn after.destination).blockNames = report.generated.map (·.name) := by
  rw [Generator.run_eq, Generator.outcome_runThrough] at ran
  split at ran
  · cases ran
  next symbols _ =>
    have tallies : RunState.Tallies { destination := start, reserved := symbols } unitIn := by
      rw [RunState.Tallies, DeclarationUnit.blockNames, empty]
      rfl
    have final := fills.blocks builtin shared schema.blocks tallies
    split at ran
    next => cases ran
    next finished =>
      rw [finished] at final
      cases ran
      exact final

end Destination.Fills

namespace Generator

variable {settings : Settings} {generator : Generator} {schema : Schema}

/-- The outcomes of a run are those of its blocks, and the blocks that are skipped are those that
the settings leave out. -/
theorem Lives.skipped_iff (typed : settings.IsTyped) (same : generator.settings = settings)
    {number : Nat} {blocks : List Block} {outcomes : List Outcome} {uses : List Use}
    (lives : generator.Lives number blocks outcomes uses) :
    List.Forall₂ (fun block outcome => outcome.name = block.name ∧
      (outcome.result.isSkipped = true ↔ settings.LeavesOut block)) blocks outcomes := by
  refine lives.forall₂.imp ?_
  rintro block outcome ⟨name, number, uses, life⟩
  obtain ⟨allowed, found, leaves⟩ := typed.exists_allows block
  refine ⟨name, ?_⟩
  rw [life.isSkipped_iff, same, found, Except.ok.injEq, leaves]

/-- A description that is run is generated, and its code is empty exactly if no block was. -/
theorem exists_answer {name : String} (builtin : generator.templates = .builtin)
    (spells : generator.Spells) (package : generator.settings.packageName = .string name)
    {report : RunReport} {after : RunState DeclarationUnit} (filled : schema.blocks ≠ [])
    (ran : (generator.run .toUnit true schema).outcome
      { destination := { source := schema.source } } = (.ok report, after)) :
    ∃ generation, generator.answer schema = .ok generation ∧ generation.report = report ∧
      generation.blockCount = schema.blocks.length ∧
      (generator.unitOf schema).blockNames = report.generated.map (·.name) ∧
      (generation.code = "" ↔ report.generated = []) := by
  obtain ⟨remarks, reviewed⟩ := spells.exists_review package schema
  obtain ⟨-, sections⟩ := unitSections_run builtin ran
  obtain ⟨code, coded, empty⟩ := exists_unitCode schema builtin sections.imports
  have names : (generator.unitOf schema).blockNames = report.generated.map (·.name) := by
    have names := Destination.fills_toUnit.blockNames_of_run builtin rfl ran
    rw [unitOf, ran]
    exact names
  refine ⟨_, answer_eq_ok filled reviewed ran coded, rfl, rfl, names, empty.trans ?_⟩
  rw [← List.map_eq_nil_iff (f := fun outcome : Outcome => outcome.name), ← names,
    DeclarationUnit.blockNames, List.map_eq_nil_iff]

/-- Every block is accounted for. Under settings of the declared types a run into a destination that
is never lost has a report, with one outcome for each block in order: a block is skipped exactly if
the settings leave it out, and then its destination is not used; it is generated exactly if its
destination was opened, its pass succeeded and its text was taken; and it fails otherwise. What is
opened is closed or released, once. A unit has the blocks that were generated, in order, whichever
sinks fail. The counts of a generation add up to the number of blocks, and its code is empty exactly
if no block was generated. -/
theorem run_accounts {τ : Type} (typed : settings.IsTyped)
    (configured : Generator.ofSettings settings = .ok generator) (filled : schema.blocks ≠ [])
    (destination : Destination σ η)
    (found : ∀ block symbol before fault,
      (destination.openFor block symbol before).1 ≠ .error (.path fault))
    (shared : Bool) (start : σ) (faults : Faults τ) (memory : τ) :
    (∃ report after uses,
      (generator.run destination shared schema).outcome { destination := start } =
        (.ok report, after) ∧
      (generator.run destination.watched shared schema).outcome { destination := ⟨start, []⟩ } =
        (.ok report, after.watched uses) ∧
      generator.Lives 0 schema.blocks report.outcomes uses ∧
      List.Forall₂ (fun block outcome => outcome.name = block.name ∧
        (outcome.result.isSkipped = true ↔ settings.LeavesOut block))
        schema.blocks report.outcomes ∧
      uses.filterMap Use.ending? = uses.filterMap Use.opening? ∧
      (uses.filterMap Use.opening?).Nodup) ∧
    (∃ report after,
      (generator.run (.toUnitWith faults) shared schema).outcome
        { destination := ({ source := schema.source }, memory) } = (.ok report, after) ∧
      after.destination.1.blockNames = report.generated.map (·.name)) ∧
    ∃ generation, generator.answer schema = .ok generation ∧
      (generator.unitOf schema).blockNames = generation.report.generated.map (·.name) ∧
      (∃ generated skipped failed : Nat,
        generation.metadata.get? "generated_blocks" = some (.int generated) ∧
        generation.metadata.get? "skipped_blocks" = some (.int skipped) ∧
        generation.metadata.get? "failed_blocks" = some (.int failed) ∧
        generation.metadata.get? "block_count" = some (.int schema.blocks.length) ∧
        generated + skipped + failed = schema.blocks.length) ∧
      (generation.code = "" ↔ generation.report.generated = []) := by
  have builtin := templates_ofSettings configured
  have same := settings_ofSettings configured
  have spells := typed.spells configured
  have prepares := typed.prepares configured
  -- for any destination, then for units whose sinks may fail, then for a generation
  refine ⟨?_, ?_, ?_⟩
  · obtain ⟨report, after, uses, ran, seen, lives⟩ :=
      spells.exists_run prepares destination shared found schema start
    obtain ⟨opened, ended⟩ := lives.ends_once
    refine ⟨report, after, uses, ran, seen, lives, lives.skipped_iff typed same,
      ended.trans opened.symm, ?_⟩
    rw [opened]
    exact List.nodup_range'
  · obtain ⟨report, after, -, ran, -⟩ := spells.exists_run prepares (.toUnitWith faults) shared
      (fun _ _ _ _ => Destination.openFor_toUnitWith_ne_path _ _ _) schema
      ({ source := schema.source }, memory)
    exact ⟨report, after, ran,
      (Destination.fills_toUnitWith faults).blockNames_of_run builtin rfl ran⟩
  · obtain ⟨report, after, uses, ran, -, lives⟩ := spells.exists_run prepares .toUnit true
      (by simp [Destination.toUnit]) schema { source := schema.source }
    obtain ⟨name, package⟩ := typed.package
    rw [← same] at package
    obtain ⟨generation, answered, reported, count, names, empty⟩ :=
      exists_answer builtin spells package filled ran
    have length : report.outcomes.length = schema.blocks.length := by
      simpa using congrArg List.length lives.names
    rw [← reported] at names empty length
    refine ⟨generation, answered, names, ⟨_, _, _, rfl, rfl, rfl, ?_, ?_⟩, empty⟩
    · rw [← count]
      rfl
    · rw [generation.report.length_outcomes, length]

/-- Three blocks: one for every process, one for renderer processes, and one with an event whose
name has a blank. -/
def threeSample : Schema :=
  { source := .string "s.json"
    blocks :=
      [{ info := { name := "a", rawType := .single "Object" } },
        { info := { name := "b", rawType := .single "Object", processes := { renderer := true } } },
        { info := { name := "c", rawType := .single "Module" }
          events := [{ info := { name := "bad name" } }] }] }

/-- Settings for the main process that refuse such an event. -/
def threeSettings : Settings :=
  { processFilter := .string "main", eventLiteralMode := .string "strict" }

/-- What becomes of the blocks of a description, and the names of those that are generated. -/
def statuses (settings : Settings) (schema : Schema) : Option (List String × List String) := do
  let generator ← (Generator.ofSettings settings).toOption
  let generation ← (generator.answer schema).toOption
  return (generation.report.outcomes.map (·.result.status),
    generation.report.generated.map (·.name))

theorem isTyped_threeSettings : threeSettings.IsTyped where
  package := ⟨_, rfl⟩
  suffix := ⟨_, rfl⟩
  process := by simp [threeSettings]
  custom := ⟨[], rfl, .none⟩

theorem run_accounts_sample :
    threeSettings.IsTyped ∧ threeSample.blocks ≠ [] ∧
      ∃ generator generation report after uses,
        Generator.ofSettings threeSettings = .ok generator ∧
        (generator.run Destination.toUnit.watched true threeSample).outcome
          { destination := ⟨{}, []⟩ } = (.ok report, after) ∧
        generator.Lives 0 threeSample.blocks report.outcomes uses ∧
        uses.filterMap Use.ending? = uses.filterMap Use.opening? ∧
        generator.answer threeSample = .ok generation ∧
        generation.report.outcomes.map (·.result.status) = ["generated", "skipped", "failed"] ∧
        (generator.unitOf threeSample).blockNames = ["a"] ∧ generation.code ≠ "" := by
  have evaluated : statuses threeSettings threeSample =
      some (["generated", "skipped", "failed"], ["a"]) := by decide +kernel
  have filled : threeSample.blocks ≠ [] := by simp [threeSample]
  simp only [statuses, Option.bind_eq_bind, Option.bind_eq_some_iff, toOption_eq_some_iff,
    Option.pure_def, Option.some.injEq, Prod.mk.injEq] at evaluated
  obtain ⟨generator, configured, again, known, status, generated⟩ := evaluated
  obtain ⟨⟨report, after, uses, -, seen, lives, -, ended, -⟩, -, generation, answered, names, -,
      empty⟩ :=
    run_accounts isTyped_threeSettings configured filled .toUnit (by simp [Destination.toUnit])
      true {} .none ()
  cases known.symm.trans answered
  rw [generated] at names
  refine ⟨isTyped_threeSettings, filled, generator, again, report, after.watched uses, uses,
    configured, seen, lives, ended, known, status, names, fun none => ?_⟩
  -- without code there would be no generated block
  rw [empty.mp none] at generated
  cases generated

end Generator

end HostBindings
