import HostBindings.Proofs.Settings.Declared

/-!
# Runs in strict and in lenient mode

Two generators that differ in their mode only go through a description alike: a block fails in the
strict run exactly where the lenient run warns of a suspicious event name. What is written behind
such a block can differ, since a block that fails leaves its names free; but if no block fails, the
runs are the same, and so is what is generated.

## Main results

* `Generator.ofSettings_mode` — the mode of settings is that of their generator
* `Generator.run_withMode`, `Generator.answer_withMode` — runs without suspicious names
* `Generator.event_modes_agree`
-/

namespace HostBindings

open Api (Block Schema)

/-- Two lists that one list was gone through with are related, if the results of each item are. -/
theorem forall₂_of_common {α β γ : Type} {Fits : α → β → Prop} {Fits' : α → γ → Prop}
    {related : β → γ → Prop} {items : List α} {results : List β} {others : List γ}
    (fits : List.Forall₂ Fits items results) (fits' : List.Forall₂ Fits' items others)
    (each : ∀ item result other, Fits item result → Fits' item other → related result other) :
    List.Forall₂ related results others := by
  induction fits generalizing others with
  | nil =>
    cases fits'
    exact .nil
  | cons first _ ih =>
    cases fits' with
    | cons first' rest' => exact .cons (each _ _ _ first first') (ih rest')

/-- A part of a report with a failure. -/
def ReportPart.Fails (part : ReportPart) : Prop :=
  ∃ outcome ∈ part.outcomes, outcome.result.isFailed = true

/-- A part of a report with a warning of a suspicious event name. -/
def ReportPart.Suspects (part : ReportPart) : Prop :=
  ∃ warning ∈ part.warnings, Generator.IsSuspicion warning

namespace Generator

variable {settings : Settings} {generator : Generator} {schema : Schema}

/-- The mode of settings is that of their generator, and has no other effect on it. -/
theorem ofSettings_mode (settings : Settings) (mode : Json) :
    Generator.ofSettings { settings with eventLiteralMode := mode } =
      (Generator.ofSettings settings).map (·.withMode mode) := by
  have corrections : correctionsOf { settings with eventLiteralMode := mode } =
      correctionsOf settings := rfl
  have types : TypeSettings.ofSettings { settings with eventLiteralMode := mode } =
      TypeSettings.ofSettings settings := rfl
  simp only [Generator.ofSettings, corrections, types]
  cases correctionsOf settings with
  | error fault => rfl
  | ok extra => cases TypeSettings.ofSettings settings <;> rfl

/-- The review does not depend on the mode. -/
theorem review_withMode (generator : Generator) (mode : Json) (schema : Schema) :
    (generator.withMode mode).review schema = generator.review schema :=
  review_congr (generator.withMode mode) generator (fun _ => rfl) rfl rfl schema

/-! ### Runs without suspicious names -/

/-- A block is skipped, or it has no suspicious event name. -/
def Clears (generator : Generator) (block : Block) : Prop :=
  generator.settings.allows block.info.processes = .ok false ∨ suspect? block = none

section Clear

variable (mode : Json) (clear : ∀ block ∈ schema.blocks, generator.Clears block)

include clear

/-- Where all blocks are clear, the mode of a run does not matter. -/
theorem run_withMode {σ η : Type} (destination : Destination σ η) (shared : Bool) :
    (generator.withMode mode).run destination shared schema =
      generator.run destination shared schema := by
  have all (blocks : List Block) (clear : ∀ block ∈ blocks, generator.Clears block) :
      blocks.forM ((generator.withMode mode).runBlock destination shared) =
        blocks.forM (generator.runBlock destination shared) := by
    induction blocks with
    | nil => rw [List.forM, List.forM]
    | cons block rest ih =>
      rw [List.forM, List.forM,
        runBlock_withMode mode destination shared (clear block List.mem_cons_self),
        ih fun other member => clear other (List.mem_cons_of_mem _ member)]
  have symbols : (generator.withMode mode).blockSymbols schema = generator.blockSymbols schema :=
    rfl
  simp only [run_eq, runThrough, symbols, all schema.blocks clear]

/-- Nor does it matter for what is generated. -/
theorem answer_withMode : (generator.withMode mode).answer schema = generator.answer schema := by
  have coded (unit : DeclarationUnit) :
      (generator.withMode mode).unitCode schema unit = generator.unitCode schema unit := rfl
  simp only [answer_eq, reviewAndRun, review_withMode, run_withMode mode clear, coded]

end Clear

/-! ### Runs with suspicious names -/

section Reports

variable {strict other : Generator} {shared : Bool} {report report' : RunReport}
  {after after' : RunState DeclarationUnit}

/-- What is true of the parts of two reports of a description, block by block. -/
theorem ReportOf.forall₂ (mine : strict.ReportOf shared schema report after)
    (theirs : other.ReportOf shared schema report' after')
    {related : ReportPart → ReportPart → Prop}
    (each : ∀ block part part', strict.PartFor block part → other.PartFor block part' →
      related part part') :
    List.Forall₂ related (strict.parts shared schema) (other.parts shared schema) :=
  forall₂_of_common mine.blocks theirs.blocks each

theorem PartFor.fails_iff {block : Block} {part : ReportPart} (fits : strict.PartFor block part)
    (supplies : strict.Supplies) (mode : strict.settings.strictEvents = true) :
    part.Fails ↔
      strict.settings.allows block.info.processes = .ok true ∧ (suspect? block).isSome := by
  obtain ⟨result, one, comes⟩ := fits
  rw [← comes.isFailed_iff supplies mode, ReportPart.Fails, one]
  simp

theorem PartFor.suspects_iff {block : Block} {part : ReportPart} (fits : other.PartFor block part)
    (supplies : other.Supplies) (mode : other.settings.strictEvents = false) :
    part.Suspects ↔
      other.settings.allows block.info.processes = .ok true ∧ (suspect? block).isSome := by
  obtain ⟨result, -, comes⟩ := fits
  exact comes.exists_suspicion_iff supplies mode

/-- If no block fails in a strict run, all blocks are clear. -/
theorem ReportOf.clears (made : strict.ReportOf shared schema report after)
    (supplies : strict.Supplies) (decides : strict.Decides)
    (mode : strict.settings.strictEvents = true) (none : report.failed = []) :
    ∀ block ∈ schema.blocks, strict.Clears block := by
  intro block member
  obtain ⟨part, listed, fits⟩ := exists_result_of_mem made.blocks member
  cases suspect : suspect? block with
  | none => exact .inr suspect
  | some name =>
    obtain ⟨allowed, found⟩ := decides block
    cases allowed with
    | false => exact .inl found
    | true =>
      obtain ⟨outcome, there, failed⟩ :=
        (fits.fails_iff supplies mode).mpr ⟨found, by rw [suspect]; rfl⟩
      have reported : outcome ∈ report.failed :=
        List.mem_filter.mpr ⟨made.outcomes ▸ List.mem_flatMap.mpr ⟨part, listed, there⟩, failed⟩
      rw [none] at reported
      cases reported

/-- A description with a report is generated, and the generation has the report. -/
theorem ReportOf.exists_generation (made : strict.ReportOf true schema report after)
    (supplies : strict.Supplies) {name : String}
    (package : strict.settings.packageName = .string name) (filled : schema.blocks ≠ []) :
    ∃ generation, strict.answer schema = .ok generation ∧ generation.report = report := by
  obtain ⟨generation, answered, reported, -⟩ :=
    exists_answer supplies.builtin supplies.spells package filled made.ran
  exact ⟨generation, answered, reported⟩

end Reports

/-- Strict and lenient modes agree. Of settings of the declared types that differ only in the mode,
the strict ones fail a block exactly where the lenient ones warn of a suspicious event name in it;
and where the strict ones fail no block, both reports, the units and what is generated are the
same. Either way every block gets its outcome, and a description with blocks is generated. -/
theorem event_modes_agree (declared : settings.IsDeclared) {mode : String}
    (lenient : mode ≠ "strict") {strict other : Generator}
    (configured : Generator.ofSettings { settings with eventLiteralMode := .string "strict" } =
      .ok strict)
    (configured' : Generator.ofSettings { settings with eventLiteralMode := .string mode } =
      .ok other) (schema : Schema) :
    (∀ shared, ∃ report after report' after',
      strict.ReportOf shared schema report after ∧ other.ReportOf shared schema report' after' ∧
      List.Forall₂ (fun part part' => part.Fails ↔ part'.Suspects)
        (strict.parts shared schema) (other.parts shared schema) ∧
      (report.failed = [] → report' = report ∧ after' = after)) ∧
    (schema.blocks ≠ [] → ∃ generation generation',
      strict.answer schema = .ok generation ∧ other.answer schema = .ok generation' ∧
      (generation.report.failed = [] → generation' = generation)) := by
  rw [ofSettings_mode] at configured configured'
  obtain ⟨generator, made, rfl⟩ := map_eq_ok_iff.mp configured
  obtain ⟨generator', made', rfl⟩ := map_eq_ok_iff.mp configured'
  cases made.symm.trans made'
  have supplies := declared.supplies made
  have decides := declared.decides made
  have mild : (generator.withMode (.string mode)).settings.strictEvents = false := by
    simp [withMode, Settings.strictEvents, lenient]
  have reports (mode : Json) (shared : Bool) :=
    (supplies.withMode mode).exists_report decides shared schema
  -- without a failure in the strict run all blocks are clear, so that the mode has no effect
  have clears {shared : Bool} {report : RunReport} {after : RunState DeclarationUnit}
      (strict : (generator.withMode (.string "strict")).ReportOf shared schema report after)
      (none : report.failed = []) : ∀ block ∈ schema.blocks, generator.Clears block :=
    strict.clears (supplies.withMode _) decides rfl none
  refine ⟨fun shared => ?_, fun filled => ?_⟩
  · obtain ⟨report, after, strict⟩ := reports (.string "strict") shared
    obtain ⟨report', after', other⟩ := reports (.string mode) shared
    refine ⟨report, after, report', after', strict, other, ?_, fun none => ?_⟩
    · exact strict.forall₂ other fun block part part' fits fits' =>
        (fits.fails_iff (supplies.withMode _) rfl).trans
          (fits'.suspects_iff (supplies.withMode _) mild).symm
    · have clear := clears strict none
      have same := strict.ran
      rw [run_withMode _ clear, ← run_withMode (.string mode) clear, other.ran] at same
      cases same
      exact ⟨rfl, rfl⟩
  · obtain ⟨name, package⟩ := declared.package
    rw [← settings_ofSettings made] at package
    obtain ⟨report, after, strict⟩ := reports (.string "strict") true
    obtain ⟨report', after', other⟩ := reports (.string mode) true
    obtain ⟨generation, answered, reported⟩ :=
      strict.exists_generation (supplies.withMode _) package filled
    obtain ⟨generation', answered', -⟩ :=
      other.exists_generation (supplies.withMode _) package filled
    refine ⟨generation, generation', answered, answered', fun none => ?_⟩
    have clear := clears strict (reported ▸ none)
    rw [answer_withMode _ clear] at answered answered'
    exact Except.ok.inj (answered'.symm.trans answered)

/-- Two blocks: one with an event whose name has a blank, and one without events. -/
def modesSample : Schema where
  source := .string "s.json"
  blocks :=
    [{ info := { name := "a", rawType := .single "Module" }
       events := [{ info := { name := "bad name" } }] },
      { info := { name := "b", rawType := .single "Object" } }]

/-- What becomes of the blocks of a description in a mode, with their warnings. -/
def partsIn (mode : String) (schema : Schema) : Option (List (List String × List String)) := do
  let generator ← (Generator.ofSettings { eventLiteralMode := .string mode }).toOption
  return (generator.parts true schema).map fun part =>
    (part.outcomes.map (·.result.status), part.warnings)

theorem event_modes_agree_sample :
    ({} : Settings).IsDeclared ∧ "lenient" ≠ "strict" ∧
      ∃ strict other,
        Generator.ofSettings { eventLiteralMode := .string "strict" } = .ok strict ∧
        Generator.ofSettings { eventLiteralMode := .string "lenient" } = .ok other ∧
        List.Forall₂ (fun part part' => part.Fails ↔ part'.Suspects)
          (strict.parts true modesSample) (other.parts true modesSample) ∧
        (strict.parts true modesSample).map (fun part =>
          (part.outcomes.map (·.result.status), part.warnings)) =
            [(["failed"], []), (["generated"], [])] ∧
        (other.parts true modesSample).map (fun part =>
          (part.outcomes.map (·.result.status), part.warnings)) =
            [(["generated"], ["suspicious event name 'bad name'"]), (["generated"], [])] := by
  have mine : partsIn "strict" modesSample = some [(["failed"], []), (["generated"], [])] := by
    decide +kernel
  have theirs : partsIn "lenient" modesSample =
      some [(["generated"], ["suspicious event name 'bad name'"]), (["generated"], [])] := by
    decide +kernel
  simp only [partsIn, Option.bind_eq_bind, Option.bind_eq_some_iff, toOption_eq_some_iff,
    Option.pure_def, Option.some.injEq] at mine theirs
  obtain ⟨strict, configured, fails⟩ := mine
  obtain ⟨other, configured', warns⟩ := theirs
  have agree := event_modes_agree Settings.isDeclared_default (by decide) configured configured'
    modesSample
  obtain ⟨-, -, -, -, -, -, each, -⟩ := agree.1 true
  exact ⟨Settings.isDeclared_default, by decide, strict, other, configured, configured', each,
    fails, warns⟩

end Generator

end HostBindings
