import HostBindings.Proofs.Runs.Names
import HostBindings.Proofs.Runs.Sections
import HostBindings.Proofs.Runs.Watched

/-!
# Runs that come to their end

A run ends before its last block only if an entity has no symbol, if a block cannot be prepared, or
if the destination of a block is lost. Where there is none of this, the run has a report, and so
has the generation of one text, if the review and the header find nothing that stops them.

## Main definitions

* `Generator.Spells` — settings with which every entity has a symbol

## Main results

* `Generator.exists_run` — a run that has a report, watched and unwatched
* `Generator.exists_review` — a description that is reviewed
* `Generator.answer_eq_ok`, `Generator.run_of_answer` — a description that is generated
-/

namespace HostBindings

open Api (Block Schema)

variable {σ η : Type}

namespace Generator

/-- Settings with which every entity has a symbol. -/
def Spells (generator : Generator) : Prop :=
  ∀ info, ∃ symbol, generator.baseSymbol info = .ok symbol

variable {generator : Generator}

/-- Blocks are reviewed if each of them has a symbol. -/
theorem exists_reviewBlocks_iff {source : String} {seen : List (String × String)}
    {blocks : List Block} :
    (∃ remarks, generator.reviewBlocks source seen blocks = .ok remarks) ↔
      ∀ block ∈ blocks, ∃ symbol, generator.baseSymbol block.info = .ok symbol := by
  induction blocks generalizing seen with
  | nil => simp [reviewBlocks]
  | cons block rest ih =>
    simp only [reviewBlocks, bind_eq_ok_iff, List.forall_mem_cons]
    constructor
    · rintro ⟨_, symbol, spelt, more, later, -⟩
      exact ⟨⟨symbol, spelt⟩, ih.mp ⟨more, later⟩⟩
    · rintro ⟨⟨symbol, spelt⟩, others⟩
      -- the blocks after it are reviewed whether or not its symbol was seen before
      obtain ⟨more, later⟩ := ih.mpr others
      exact ⟨_, symbol, spelt, more, later, rfl⟩

/-- A description is reviewed if its blocks are, and if the package name can be looked at. -/
theorem exists_review_iff {schema : Schema} :
    (∃ remarks, generator.review schema = .ok remarks) ↔
      (∀ block ∈ schema.blocks, ∃ symbol, generator.baseSymbol block.info = .ok symbol) ∧
        ∃ flaws, generator.settings.packageFlaws = .ok flaws := by
  simp only [review, bind_eq_ok_iff]
  constructor
  · rintro ⟨_, remarks, blocks, flaws, found, -⟩
    exact ⟨exists_reviewBlocks_iff.mp ⟨remarks, blocks⟩, flaws, found⟩
  · rintro ⟨spelt, flaws, found⟩
    obtain ⟨remarks, blocks⟩ := exists_reviewBlocks_iff.mpr spelt
    exact ⟨_, remarks, blocks, flaws, found, rfl⟩

/-- The review depends on nothing but the symbols, the name of the package, and the templates. -/
theorem review_congr (generator other : Generator)
    (symbols : ∀ info, generator.baseSymbol info = other.baseSymbol info)
    (package : generator.settings.packageFlaws = other.settings.packageFlaws)
    (templates : generator.templates = other.templates) (schema : Schema) :
    generator.review schema = other.review schema := by
  have blocks (source : String) (seen : List (String × String)) (blocks : List Block) :
      generator.reviewBlocks source seen blocks = other.reviewBlocks source seen blocks := by
    induction blocks generalizing seen with
    | nil => rfl
    | cons block rest ih => simp only [reviewBlocks, symbols, ih]
  simp only [review, blocks, package, templates]

namespace Spells

variable (spells : generator.Spells)

include spells

theorem exists_blockSymbols (schema : Schema) :
    ∃ symbols, generator.blockSymbols schema = .ok symbols := by
  obtain ⟨symbols, found⟩ : ∃ symbols,
      schema.blocks.mapM (fun block => generator.baseSymbol block.info) = .ok symbols :=
    exists_mapM_eq_ok fun block _ => spells block.info
  exact ⟨_, by rw [blockSymbols, found]; rfl⟩

/-- The review of a description finds nothing that ends the generation. -/
theorem exists_review {name : String} (package : generator.settings.packageName = .string name)
    (schema : Schema) : ∃ remarks, generator.review schema = .ok remarks := by
  refine exists_review_iff.mpr ⟨fun block _ => spells block.info, ?_⟩
  rw [Settings.packageFlaws, package]
  split
  · exact ⟨_, rfl⟩
  · exact ⟨_, rfl⟩

/-- A run whose blocks are prepared, and whose destinations are not lost, has a report. Watching the
destination shows how each block came to its outcome. -/
theorem exists_run (prepares : generator.Prepares) (destination : Destination σ η)
    (shared : Bool)
    (found : ∀ block symbol before fault,
      (destination.openFor block symbol before).1 ≠ .error (.path fault))
    (schema : Schema) (start : σ) :
    ∃ report after uses,
      (generator.run destination shared schema).outcome { destination := start } =
        (.ok report, after) ∧
      (generator.run destination.watched shared schema).outcome { destination := ⟨start, []⟩ } =
        (.ok report, after.watched uses) ∧
      generator.Lives 0 schema.blocks report.outcomes uses := by
  obtain ⟨symbols, known⟩ := spells.exists_blockSymbols schema
  let before : RunState σ := { destination := start, reserved := symbols }
  obtain ⟨after, outcomes, uses, ran, seen, all, lives⟩ :=
    exists_lives prepares destination shared found schema.blocks before []
  have watched : (schema.blocks.forM (generator.runBlock destination.watched shared)).outcome
      { destination := ⟨start, []⟩, reserved := symbols } = (.ok (), after.watched uses) := seen
  have outcomes_eq : after.outcomes = outcomes := all
  rw [← outcomes_eq] at lives
  simp only [run_eq, outcome_runThrough, known, watched]
  rw [show (schema.blocks.forM (generator.runBlock destination shared)).outcome
    { destination := start, reserved := symbols } = (.ok (), after) from ran]
  exact ⟨_, _, uses, rfl, rfl, lives⟩

end Spells

/-- A description is generated where its review, its run and its code are. -/
theorem answer_eq_ok {schema : Schema} {remarks : List Remark}
    {report : RunReport} {state : RunState DeclarationUnit} {code : String}
    (filled : schema.blocks ≠ []) (reviewed : generator.review schema = .ok remarks)
    (ran : (generator.run .toUnit true schema).outcome
      { destination := { source := schema.source } } = (.ok report, state))
    (coded : generator.unitCode schema (generator.unitOf schema) = .ok code) :
    generator.answer schema = .ok
      { code, warnings := remarks.map Remark.message ++ report.warnings
        blockCount := schema.blocks.length, report } := by
  have some : schema.blocks.isEmpty = false := by simpa using filled
  rw [unitOf, ran] at coded
  rw [answer_eq, some, reviewAndRun_eq, reviewed, ran]
  simp only [Bool.false_eq_true, if_false, coded]

/-- What is generated as one text comes from a run with a report, and is the code of the unit. -/
theorem run_of_answer {schema : Schema} {generation : Generation}
    (answered : generator.answer schema = .ok generation) :
    (∃ state, (generator.run .toUnit true schema).outcome
      { destination := { source := schema.source } } = (.ok generation.report, state)) ∧
      generator.unitCode schema (generator.unitOf schema) = .ok generation.code := by
  obtain ⟨_, report, state, -, ran, code, coded, rfl⟩ := exists_run_of_answer answered
  rw [unitOf, ran]
  exact ⟨⟨state, rfl⟩, coded⟩

end Generator

end HostBindings
