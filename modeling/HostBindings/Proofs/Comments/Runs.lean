import HostBindings.Proofs.Printing.Templates
import HostBindings.Proofs.Runs.Blocks
import HostBindings.Proofs.Shapes.Generations

/-!
# Runs that differ in comments

Two runs go side by side over descriptions whose blocks are alike, under generators that may differ
in whether they write comments. They take the same names, queue the same nodes, and have the same
outcomes and warnings; their units have the same imports, and sections whose declarations look the
same through a view of the comments.

## Main definitions

* `Sink.Alike`, `DeclarationUnit.Alike`, `RunState.Alike` — the same through a view

## Main results

* `Generator.declaresAlike_seen` — declarations that look the same are written alike
* `RunState.Alike.runBlock`, `RunState.Alike.blocks` — one block, and all of them
* `Generator.run_alike` — whole runs
-/

namespace HostBindings

open Api (Block Schema)

variable {view : Code.View}

/-! ### Sinks -/

/-- Two sinks that look the same, but for their texts. -/
structure Sink.Alike (view : Code.View) (s t : Sink) : Prop where
  blockName : s.blockName = t.blockName
  imports : s.imports = t.imports
  isOpen : s.isOpen = t.isOpen
  /-- The declarations look the same. -/
  declarations : s.declarations.map (·.seen view) = t.declarations.map (·.seen view)

namespace Generator

variable {generator : Generator} {value : Json}

/-- Sinks are paired that look the same. -/
def SinkPairing.seen (view : Code.View) : SinkPairing where
  paired := Sink.Alike view
  imports path alike := { alike with imports := by simp only [Sink.addImport, alike.imports] }

open Emit (Agree agree_bind agree_get agree_ite agree_modify agree_set agree_throw)

theorem agree_write_seen (text text' : String) :
    Agree (Pass.Alike (.beside generator (.seen view))) (Emit.write text) (Emit.write text') := by
  refine agree_get fun p q alike => ?_
  have sinks : Sink.Alike view p.sink q.sink := alike.sink
  simp only [Sink.write?, sinks.isOpen, sinks.blockName]
  cases q.sink.isOpen with
  | false => exact agree_throw _
  | true => exact agree_set { alike with sink := ⟨rfl, sinks.imports, rfl, sinks.declarations⟩ }

theorem agree_writeTrimmed_seen (text text' : String) :
    Agree (Pass.Alike (.beside generator (.seen view))) (Emit.writeTrimmed text)
      (Emit.writeTrimmed text') := by
  refine agree_get fun p q alike => ?_
  rw [alike.sections]
  have last : Agree (Pass.Alike (.beside generator (.seen view)))
      (do Emit.write text; modify fun pass => { pass with sections := pass.sections + 1 })
      (do Emit.write text'; modify fun pass => { pass with sections := pass.sections + 1 }) :=
    agree_bind (agree_write_seen text text') fun _ =>
      agree_modify fun _ _ alike => { alike with sections := by rw [alike.sections] }
  exact agree_ite (agree_bind (agree_write_seen _ _) fun _ => last) last

/-- With the templates of the library, declarations that look the same are written alike. -/
theorem declaresAlike_seen (builtin : generator.templates = .builtin) (value : Json)
    (view : Code.View) : DeclaresAlike (.beside generator (.seen view)) value view := by
  intro declaration declaration' same
  have builtin' : (generator.commenting value).templates = .builtin := builtin
  simp only [Emit.declare, Emit.render, builtin, builtin', Template.render_builtin, pure_bind,
    declaration.sectionText?_printed, declaration'.sectionText?_printed]
  refine agree_bind (agree_writeTrimmed_seen _ _) fun _ => agree_modify fun p q alike => ?_
  have sinks : Sink.Alike view p.sink q.sink := alike.sink
  have declarations : (p.sink.declarations ++ [declaration]).map (·.seen view) =
      (q.sink.declarations ++ [declaration']).map (·.seen view) := by
    rw [List.map_append, List.map_append, sinks.declarations, List.map_singleton,
      List.map_singleton, same]
  exact { alike with sink := { sinks with declarations := declarations } }

/-- Blocks that are alike are both refused, both passed over, or both start a pass. -/
theorem prepare_alike (generator : Generator) (value : Json) (view : Code.View)
    {block block' : Block} (blocks : block.Alike block') (reserved : List String) :
    (∃ fault, generator.prepare block reserved = .error fault ∧
      (generator.commenting value).prepare block' reserved = .error fault) ∨
    (generator.prepare block reserved = .ok none ∧
      (generator.commenting value).prepare block' reserved = .ok none) ∨
    ∃ start start', generator.prepare block reserved = .ok (some start) ∧
      (generator.commenting value).prepare block' reserved = .ok (some start') ∧
      Pass.Alike (.beside generator (.seen view)) start start' := by
  -- the filter only looks at the processes, which both blocks share
  have same : (generator.commenting value).settings.allows block'.info.processes =
      generator.settings.allows block.info.processes := by
    rw [blocks.info.processes]
    rfl
  have fresh : (SinkPairing.seen view).paired { blockName := block.name }
      { blockName := block'.name } := ⟨blocks.name, rfl, rfl, rfl⟩
  unfold prepare
  rw [same]
  cases generator.settings.allows block.info.processes with
  | error fault => exact .inl ⟨fault, rfl, rfl⟩
  | ok isAllowed =>
    cases isAllowed with
    | false => exact .inr (.inl ⟨rfl, rfl⟩)
    | true =>
      rcases start_alike generator value blocks fresh reserved with
        ⟨fault, started, started'⟩ | ⟨start, start', started, started', beside⟩
      · rw [started, started']
        exact .inl ⟨fault, rfl, rfl⟩
      · rw [started, started']
        exact .inr (.inr ⟨start, start', rfl, rfl, beside⟩)

end Generator

/-! ### Units and runs -/

/-- Two sections that look the same, but for their texts. -/
structure Section.Alike (view : Code.View) (a b : Section) : Prop where
  blockName : a.blockName = b.blockName
  declarations : a.declarations.map (·.seen view) = b.declarations.map (·.seen view)

/-- Two units that look the same, but for the names of their documents. -/
structure DeclarationUnit.Alike (view : Code.View) (a b : DeclarationUnit) : Prop where
  sections : List.Forall₂ (Section.Alike view) a.sections b.sections
  imports : a.imports = b.imports

/-- The states of two runs that look the same. -/
structure RunState.Alike (view : Code.View) (a b : RunState DeclarationUnit) : Prop where
  unit : a.destination.Alike view b.destination
  reserved : a.reserved = b.reserved
  outcomes : a.outcomes = b.outcomes
  warnings : a.warnings = b.warnings

variable {generator : Generator} {value : Json} {a b : RunState DeclarationUnit}

/-- Sinks that look the same are committed alike. -/
theorem DeclarationUnit.Alike.commit {u v : DeclarationUnit} {s t : Sink} (alike : u.Alike view v)
    (sinks : s.Alike view t) : (u.commit s).Alike view (v.commit t) where
  sections :=
    List.rel_append alike.sections (.cons ⟨sinks.blockName, sinks.declarations⟩ .nil)
  imports := by simp only [DeclarationUnit.commit, alike.imports, sinks.imports]

namespace RunState.Alike

/-- Passes that start alike end alike, and their texts reach units that look the same. -/
theorem runPass (builtin : generator.templates = .builtin) (hides : generator.Hides value view)
    (shared : Bool) {block block' : Block} (blocks : block.Alike block') {start start' : Pass}
    (beside : Pass.Alike (.beside generator (.seen view)) start start') (alike : a.Alike view b) :
    ((generator.runPass .toUnit shared block start ()).outcome a).1 =
        (((generator.commenting value).runPass .toUnit shared block' start' ()).outcome b).1 ∧
      ((generator.runPass .toUnit shared block start ()).outcome a).2.Alike view
        (((generator.commenting value).runPass .toUnit shared block' start' ()).outcome b).2 := by
  have agree : Emit.Agree (Pass.Alike (.beside generator (.seen view))) (generator.emission block)
      ((generator.commenting value).emission block') :=
    Generator.agree_emission hides (Generator.declaresAlike_seen builtin value view) blocks
  obtain ⟨results, passes⟩ := agree start start' beside
  rw [Generator.outcome_runPass, Generator.outcome_runPass]
  generalize (generator.emission block).outcome start = ended at results passes ⊢
  generalize ((generator.commenting value).emission block').outcome start' = ended'
    at results passes ⊢
  obtain ⟨result, pass⟩ := ended
  obtain ⟨result', pass'⟩ := ended'
  -- both passes fail for one reason, or both succeed and hand their texts over
  cases results
  have sinks : Sink.Alike view pass.sink pass'.sink := passes.sink
  have warnings : a.warnings ++ pass.warnings = b.warnings ++ pass'.warnings := by
    rw [alike.warnings, passes.warnings]
  cases result with
  | error fault =>
    refine ⟨rfl, alike.unit, alike.reserved, ?_, warnings⟩
    dsimp only
    rw [alike.outcomes, blocks.name]
  | ok nested =>
    have outcomes : a.outcomes ++ [⟨block.name, .generated nested⟩] =
        b.outcomes ++ [⟨block'.name, .generated nested⟩] := by rw [alike.outcomes, blocks.name]
    dsimp only
    rw [Generator.outcome_commitPass, Generator.outcome_commitPass]
    refine ⟨rfl, alike.unit.commit sinks, ?_, outcomes, warnings⟩
    cases shared with
    | false => exact alike.reserved
    | true => exact passes.names

/-- One block: it ends alike, and leads to states that look the same. -/
theorem runBlock (builtin : generator.templates = .builtin) (hides : generator.Hides value view)
    (shared : Bool) {block block' : Block} (blocks : block.Alike block') (alike : a.Alike view b) :
    ((generator.runBlock .toUnit shared block).outcome a).1 =
        (((generator.commenting value).runBlock .toUnit shared block').outcome b).1 ∧
      ((generator.runBlock .toUnit shared block).outcome a).2.Alike view
        (((generator.commenting value).runBlock .toUnit shared block').outcome b).2 := by
  have begun : (a.begin block).Alike view (b.begin block') :=
    ⟨alike.unit, alike.reserved, alike.outcomes, alike.warnings⟩
  rw [Generator.outcome_runBlock, Generator.outcome_runBlock, alike.reserved]
  rcases Generator.prepare_alike generator value view blocks b.reserved with
    ⟨fault, prepared, prepared'⟩ | ⟨prepared, prepared'⟩ |
      ⟨start, start', prepared, prepared', beside⟩
  · rw [prepared, prepared']
    exact ⟨rfl, begun⟩
  · rw [prepared, prepared']
    refine ⟨rfl, begun.unit, begun.reserved, ?_, begun.warnings⟩
    have outcomes : a.outcomes ++ [⟨block.name, .skipped generator.settings.processFilter.text⟩] =
        b.outcomes ++ [⟨block'.name, .skipped generator.settings.processFilter.text⟩] := by
      rw [alike.outcomes, blocks.name]
    exact outcomes
  · rw [prepared, prepared']
    exact runPass builtin hides shared blocks beside begun

/-- All blocks, one after another. -/
theorem blocks (builtin : generator.templates = .builtin) (hides : generator.Hides value view)
    (shared : Bool) {blocks blocks' : List Block} (all : List.Forall₂ Block.Alike blocks blocks')
    (alike : a.Alike view b) :
    ((blocks.forM (generator.runBlock .toUnit shared)).outcome a).1 =
        ((blocks'.forM ((generator.commenting value).runBlock .toUnit shared)).outcome b).1 ∧
      ((blocks.forM (generator.runBlock .toUnit shared)).outcome a).2.Alike view
        ((blocks'.forM ((generator.commenting value).runBlock .toUnit shared)).outcome b).2 := by
  induction all generalizing a b with
  | nil =>
    rw [Running.outcome_forM_nil, Running.outcome_forM_nil]
    exact ⟨rfl, alike⟩
  | @cons block block' _ _ first _ ih =>
    obtain ⟨same, next⟩ := alike.runBlock builtin hides shared first
    rw [Running.outcome_forM_cons, Running.outcome_forM_cons]
    rcases ran : (generator.runBlock .toUnit shared block).outcome a with ⟨result, middle⟩
    rcases ran' : ((generator.commenting value).runBlock .toUnit shared block').outcome b with
      ⟨result', middle'⟩
    rw [ran, ran'] at same next
    dsimp only at same next
    subst same
    cases result with
    | error cause => exact ⟨rfl, next⟩
    | ok => exact ih next

end RunState.Alike

namespace Generator

/-- What the outcome of a run shows but for the name of the document. -/
def shown (outcome : Except Interruption RunReport × RunState DeclarationUnit) :
    Except Interruption (List Outcome × List String) :=
  outcome.1.map fun report => (report.outcomes, report.warnings)

/-- Runs over descriptions whose blocks are alike have the same outcomes and warnings, or end for
one reason, and lead to units that look the same. -/
theorem run_alike (builtin : generator.templates = .builtin) (hides : generator.Hides value view)
    (shared : Bool) {schema schema' : Schema}
    (blocks : List.Forall₂ Block.Alike schema.blocks schema'.blocks) (alike : a.Alike view b) :
    shown ((generator.run .toUnit shared schema).outcome a) =
        shown (((generator.commenting value).run .toUnit shared schema').outcome b) ∧
      ((generator.run .toUnit shared schema).outcome a).2.destination.Alike view
        (((generator.commenting value).run .toUnit shared schema').outcome b).2.destination := by
  have symbols : (generator.commenting value).blockSymbols schema' =
      generator.blockSymbols schema := (blockSymbols_eq blocks).symm
  rw [run_eq, run_eq, outcome_runThrough, outcome_runThrough, symbols]
  cases generator.blockSymbols schema with
  | error fault => exact ⟨rfl, alike.unit⟩
  | ok symbols =>
    dsimp only
    -- the symbols of both descriptions are the same, so both runs start with the same taken names
    obtain ⟨same, final⟩ := RunState.Alike.blocks (a := { a with reserved := symbols })
      (b := { b with reserved := symbols }) builtin hides shared blocks
      ⟨alike.unit, rfl, alike.outcomes, alike.warnings⟩
    generalize (schema.blocks.forM (generator.runBlock .toUnit shared)).outcome
      { a with reserved := symbols } = outcome at same final ⊢
    generalize (schema'.blocks.forM ((generator.commenting value).runBlock .toUnit shared)).outcome
      { b with reserved := symbols } = outcome' at same final ⊢
    obtain ⟨result, after⟩ := outcome
    obtain ⟨result', after'⟩ := outcome'
    dsimp only at same final
    subst same
    cases result with
    | error cause => exact ⟨rfl, final.unit⟩
    | ok =>
      refine ⟨?_, final.unit⟩
      simp only [shown, reportOf, Except.map, final.outcomes, final.warnings]

end Generator

end HostBindings
