import HostBindings.Proofs.Reserved.Declarations
import HostBindings.Proofs.Runs.Names

/-!
# One more block at the end

The names of all blocks are taken before the first block is generated, so a block at the end of a
description has a say in every name before it. It has no effect on them all the same, unless its own
name is one that the blocks before it declare: a name that is only taken, and that nobody wants,
changes nothing; and where a pass did want it, that pass failed, or its text was refused, and does
so again under whichever names.

## Main definitions

* `Faults.RefusesBlocks` — refusals that do not depend on the text
* `Generator.RunsBeside` — the states of two runs, where one more name is taken in the second one

## Main results

* `Generator.RunsBeside.runBlock`, `Generator.RunsBeside.blocks` — one block, and all of them
* `Generator.run_prefix_stable`
-/

namespace HostBindings

open Api (Block Schema)

variable {σ τ : Type}

/-- What refuses the text of a block refuses every text of that block. So the same blocks are
refused in two runs that give things different names. -/
def Faults.RefusesBlocks (faults : Faults τ) : Prop :=
  ∀ (sink sink' : Sink) (memory : τ) (error : SinkError), sink.blockName = sink'.blockName →
    (faults.committing sink memory).1 = some error →
    faults.committing sink' memory = faults.committing sink memory

/-- Two lists gone through, one behind the other. -/
theorem Running.outcome_forM_append {α : Type} (f : α → Running σ PUnit) (xs ys : List α)
    (state : RunState σ) :
    ((xs ++ ys).forM f).outcome state =
      match (xs.forM f).outcome state with
      | (.ok _, after) => (ys.forM f).outcome after
      | (.error cause, after) => (.error cause, after) := by
  induction xs generalizing state with
  | nil => rfl
  | cons x rest ih =>
    rw [List.cons_append, outcome_forM_cons, outcome_forM_cons]
    rcases (f x).outcome state with ⟨cause | _, after⟩
    · rfl
    · exact ih after

namespace Generator

variable {generator : Generator} {faults : Faults τ} {symbols : List String} {extra : String}
  {block : Block}

/-! ### What a run adds -/

/-- What a block adds: an outcome unless it ends the run, and a section if it is generated. -/
theorem BlockEnd.sections {before after : RunState (DeclarationUnit × τ)}
    {result : Except Interruption Unit}
    (ended : generator.BlockEnd (.toUnitWith faults) true block before result after) :
    ∃ outcomes sections,
      after.outcomes = before.outcomes ++ outcomes ∧
      after.destination.1.sections = before.destination.1.sections ++ sections ∧
      sections.length = (outcomes.filter (·.result.isGenerated)).length ∧
      outcomes.map (·.name) = if result.isOk then [block.name] else [] := by
  cases ended with
  | unprepared _ same adds => exact ⟨[], [], adds.outcomes, by simp [same], rfl, rfl⟩
  | lost _ _ keeps adds => exact ⟨[], [], adds.outcomes, by simp [keeps.unit], rfl, rfl⟩
  | skipped _ same adds => exact ⟨_, [], adds.outcomes, by simp [same], rfl, rfl⟩
  | failed _ _ keeps adds => exact ⟨_, [], adds.outcomes, by simp [keeps.unit], rfl, rfl⟩
  | @generated _ pass _ _ _ _ _ _ keeps committed adds =>
    refine ⟨_, [⟨pass.sink.blockName, pass.sink.text, pass.sink.declarations⟩], adds.outcomes, ?_,
      rfl, rfl⟩
    rw [Destination.commit_toUnitWith committed, keeps.unit]
    rfl

/-- A run that comes to its end has an outcome for every block. -/
theorem map_name_outcomes (faults : Faults τ) (blocks : List Block)
    {before after : RunState (DeclarationUnit × τ)}
    (ran : (blocks.forM (generator.runBlock (.toUnitWith faults) true)).outcome before =
      (.ok (), after)) :
    after.outcomes.map (·.name) = before.outcomes.map (·.name) ++ blocks.map (·.name) := by
  refine between_blocks
    (fun done state => state.outcomes.map (·.name) = before.outcomes.map (·.name) ++
      done.map (·.name)) (fun {done block earlier middle} names step => ?_)
    (show _ = _ ++ [].map _ from (List.append_nil _).symm) ran
  have ended := blockEnd_runBlock generator (.toUnitWith faults) true block earlier
  rw [step] at ended
  obtain ⟨outcomes, -, grown, -, -, added⟩ := ended.sections
  rw [grown, List.map_append, names, added, List.map_append, List.append_assoc]
  rfl

/-- Names that are declared stay declared. -/
theorem names_subset_of_blocks (faults : Faults τ) (blocks : List Block)
    (before : RunState (DeclarationUnit × τ)) :
    before.destination.1.names ⊆
      ((blocks.forM (generator.runBlock (.toUnitWith faults) true)).outcome
        before).2.destination.1.names := by
  refine holds_blocks (fun after : RunState (DeclarationUnit × τ) =>
    before.destination.1.names ⊆ after.destination.1.names)
    (fun block _ earlier subset => List.Subset.trans subset ?_) (List.Subset.refl _)
  obtain ⟨-, sections, -, grown, -, -⟩ :=
    (blockEnd_runBlock generator (.toUnitWith faults) true block earlier).sections
  rw [DeclarationUnit.names, DeclarationUnit.names, grown, List.flatMap_append]
  exact List.subset_append_left _ _

/-! ### One block -/

/-- The states of two runs between two blocks, where the name `extra` is taken in the second one. -/
structure RunsBeside (extra : String) (symbols : List String)
    (state state' : RunState (DeclarationUnit × τ)) : Prop where
  /-- The same text is committed, and the same is remembered of what failed. -/
  destination : state'.destination = state.destination
  /-- The outcomes are the same. -/
  outcomes : state'.outcomes = state.outcomes
  /-- One more name is taken. -/
  reserved : ∀ name, name ∈ state'.reserved ↔ name ∈ state.reserved ∨ name = extra
  /-- It is free in the first run. -/
  free : extra ∉ state.reserved
  /-- The symbols of the blocks are taken. -/
  symbols : symbols ⊆ state.reserved

variable {state state' after : RunState (DeclarationUnit × τ)} {result : Except Interruption Unit}

/-- A pass is handed over in both runs. Where it is taken, it claimed nothing but what it declares,
so the passes have not parted. -/
theorem RunsBeside.commitPass {start pass pass' : Pass} {nested nested' : Nat} {together : Prop}
    (refuses : faults.RefusesBlocks) (builtin : generator.templates = .builtin)
    (beside : RunsBeside extra symbols state state')
    (started : Pass.start generator block state.reserved = .ok start)
    (known : start.scope.symbol ∈ state.reserved)
    (emitted : Emit.Runs (generator.emission block) start nested pass)
    (passes : Pass.Beside extra together pass pass') (counts : together → nested = nested')
    (ran : (Generator.commitPass (.toUnitWith faults) true block () pass nested).outcome state =
      (result, after))
    (undeclared : extra ∉ after.destination.1.names) :
    ∃ after', (Generator.commitPass (.toUnitWith faults) true block () pass' nested').outcome
        state' = (result, after') ∧ RunsBeside extra symbols after after' := by
  rw [outcome_commitPass] at ran ⊢
  rcases committing : faults.committing pass.sink state.destination.2 with ⟨_ | error, memory⟩
  · simp only [Destination.toUnitWith, committing] at ran ⊢
    cases ran
    -- the text is taken, so whatever the pass claimed is declared, and the one name is not
    obtain ⟨-, claimed, names, -, -, perm⟩ := exists_claimed builtin started emitted known
    have unclaimed : extra ∉ pass.scope.names := by
      rw [names, List.mem_append]
      rintro (old | new)
      · exact beside.free old
      · refine undeclared ?_
        rw [DeclarationUnit.names, DeclarationUnit.commit, List.flatMap_append]
        refine List.mem_append_right _ ?_
        simpa [Section.names] using perm.mem_iff.mpr (List.mem_cons_of_mem _ new)
    have still : together := Classical.byContradiction fun parted =>
      unclaimed (passes.parted parted)
    obtain ⟨more, rfl, grown⟩ := passes.same still
    obtain rfl := counts still
    simp only [beside.destination, committing]
    refine ⟨_, rfl, rfl, ?_, grown, unclaimed, ?_⟩
    · rw [beside.outcomes]
    · dsimp only
      rw [names]
      exact fun name member => List.mem_append_left _ (beside.symbols member)
  · -- the passes may have parted, but the text of the block is refused whatever it is
    have refused := refuses pass.sink pass'.sink state.destination.2 error passes.blockName
      (by rw [committing])
    rw [committing] at refused
    simp only [Destination.toUnitWith, committing, beside.destination, refused] at ran ⊢
    cases ran
    exact ⟨_, rfl, rfl, by rw [beside.outcomes], beside.reserved, beside.free, beside.symbols⟩

/-- The pass of a block runs in both runs. It fails in both or in none, whatever the names are. -/
theorem RunsBeside.runPass {start start' : Pass} (refuses : faults.RefusesBlocks)
    (builtin : generator.templates = .builtin) (beside : RunsBeside extra symbols state state')
    (started : Pass.start generator block state.reserved = .ok start)
    (known : start.scope.symbol ∈ state.reserved) (passes : Pass.Beside extra True start start')
    (ran : (generator.runPass (.toUnitWith faults) true block start ()).outcome state =
      (result, after))
    (undeclared : extra ∉ after.destination.1.names) :
    ∃ after', (generator.runPass (.toUnitWith faults) true block start' ()).outcome state' =
        (result, after') ∧ RunsBeside extra symbols after after' := by
  obtain ⟨later, -, passes, ends⟩ := follows_emission builtin block start start' passes
  rw [outcome_runPass] at ran ⊢
  rcases emitted : (generator.emission block).outcome start with ⟨end_, pass⟩
  rcases emitted' : (generator.emission block).outcome start' with ⟨end_', pass'⟩
  rw [emitted, emitted'] at passes ends
  rw [emitted] at ran
  cases ends with
  | failed fault =>
    cases ran
    exact ⟨_, rfl, by rw [beside.destination], by rw [beside.outcomes], beside.reserved,
      beside.free, beside.symbols⟩
  | done counts =>
    dsimp only at ran ⊢
    refine RunsBeside.commitPass refuses builtin ?_ ?_ ?_ emitted passes counts ran undeclared
    · exact ⟨beside.destination, beside.outcomes, beside.reserved, beside.free, beside.symbols⟩
    · exact started
    · exact known

/-- A pass that does not start does not start whichever names are taken. -/
theorem start_eq_error {reserved : List String} {fault : UseFault} (reserved' : List String)
    (started : Pass.start generator block reserved = .error fault) :
    Pass.start generator block reserved' = .error fault := by
  cases spelt : generator.baseSymbol block.info with
  | error => simpa [Pass.start, spelt, bind, Except.bind] using started
  | ok symbol =>
    cases named : generator.stem block.info with
    | error => simpa [Pass.start, spelt, named, bind, Except.bind] using started
    | ok stem => simp [Pass.start, spelt, named, bind, Except.bind, pure, Except.pure] at started

/-- One block: unless it declares the one more name, it does the same where that is taken. -/
theorem RunsBeside.runBlock (refuses : faults.RefusesBlocks)
    (builtin : generator.templates = .builtin) (beside : RunsBeside extra symbols state state')
    (known : ∃ symbol ∈ symbols, generator.baseSymbol block.info = .ok symbol)
    (ran : (generator.runBlock (.toUnitWith faults) true block).outcome state = (result, after))
    (undeclared : extra ∉ after.destination.1.names) :
    ∃ after', (generator.runBlock (.toUnitWith faults) true block).outcome state' =
        (result, after') ∧ RunsBeside extra symbols after after' := by
  obtain ⟨symbol, member, spelt⟩ := known
  rw [outcome_runBlock] at ran ⊢
  -- filter, start and opening do not depend on the one more name; the pass does
  rcases filtered : generator.settings.allows block.info.processes with fault | _ | _
  · rw [prepare_of_refused filtered] at ran ⊢
    cases ran
    exact ⟨_, rfl, beside.destination, beside.outcomes, beside.reserved, beside.free,
      beside.symbols⟩
  · rw [prepare_of_forbidden filtered] at ran ⊢
    cases ran
    exact ⟨_, rfl, beside.destination, congrArg (· ++ _) beside.outcomes, beside.reserved,
      beside.free, beside.symbols⟩
  rw [prepare_of_allowed filtered] at ran ⊢
  cases started : Pass.start generator block state.reserved with
  | error fault =>
    rw [started] at ran
    rw [start_eq_error state'.reserved started]
    cases ran
    exact ⟨_, rfl, beside.destination, beside.outcomes, beside.reserved, beside.free,
      beside.symbols⟩
  | ok start =>
    have own : start.scope.symbol ∈ state.reserved :=
      beside.symbols (symbol_of_start started spelt ▸ member)
    obtain ⟨start', started', same, passes⟩ := beside_start beside.reserved started own
    simp only [started, started', same, Except.map, beside.destination,
      Destination.toUnitWith] at ran ⊢
    rcases opening : faults.opening block start.scope.symbol state.destination.2 with
      ⟨_ | error, memory⟩
    · -- the destination opens in both runs, and the passes run beside each other
      simp only [opening] at ran ⊢
      refine RunsBeside.runPass refuses builtin ?_ ?_ ?_ passes ran undeclared
      · exact ⟨rfl, beside.outcomes, beside.reserved, beside.free, beside.symbols⟩
      · exact started
      · exact own
    · simp only [opening, Running.outcome_bind, Running.outcome_note,
        Running.outcome_finish] at ran ⊢
      cases ran
      exact ⟨_, rfl, rfl, congrArg (· ++ _) beside.outcomes, beside.reserved, beside.free,
        beside.symbols⟩

/-! ### All blocks -/

/-- All blocks of a description: unless they declare the one more name, they do the same where that
is taken. -/
theorem RunsBeside.blocks {blocks : List Block} (refuses : faults.RefusesBlocks)
    (builtin : generator.templates = .builtin) (beside : RunsBeside extra symbols state state')
    (known : ∀ block ∈ blocks, ∃ symbol ∈ symbols, generator.baseSymbol block.info = .ok symbol)
    (ran : (blocks.forM (generator.runBlock (.toUnitWith faults) true)).outcome state =
      (result, after))
    (undeclared : extra ∉ after.destination.1.names) :
    ∃ after', (blocks.forM (generator.runBlock (.toUnitWith faults) true)).outcome state' =
        (result, after') ∧ RunsBeside extra symbols after after' := by
  induction blocks generalizing state state' with
  | nil =>
    cases ran
    exact ⟨state', rfl, beside⟩
  | cons block rest ih =>
    have first := known block List.mem_cons_self
    rw [Running.outcome_forM_cons] at ran ⊢
    rcases step : (generator.runBlock (.toUnitWith faults) true block).outcome state with
      ⟨cause | _, middle⟩
    · rw [step] at ran
      cases ran
      obtain ⟨after', ran', beside⟩ := beside.runBlock refuses builtin first step undeclared
      rw [ran']
      exact ⟨after', rfl, beside⟩
    · rw [step] at ran
      dsimp only at ran
      -- what the first block declares is still declared in the end
      have kept : middle.destination.1.names ⊆ ((rest.forM (generator.runBlock
          (.toUnitWith faults) true)).outcome middle).2.destination.1.names :=
        names_subset_of_blocks faults rest middle
      rw [ran] at kept
      have here : extra ∉ middle.destination.1.names := fun declared => undeclared (kept declared)
      obtain ⟨after', ran', beside⟩ := beside.runBlock refuses builtin first step here
      rw [ran']
      exact ih beside (fun other member => known other (List.mem_cons_of_mem _ member)) ran

/-- The names of all blocks, where one block is added at the end. -/
theorem blockSymbols_append {schema : Schema} {symbol : String}
    (spelt : generator.baseSymbol block.info = .ok symbol) :
    generator.blockSymbols { schema with blocks := schema.blocks ++ [block] } =
      (generator.blockSymbols schema).map (insertOnce · symbol) := by
  have last : ([block].mapM fun block => generator.baseSymbol block.info) = .ok [symbol] := by
    simp [spelt, bind, Except.bind, pure, Except.pure]
  simp only [blockSymbols, List.mapM_append, last]
  cases schema.blocks.mapM fun block => generator.baseSymbol block.info with
  | error => rfl
  | ok each => simp [bind, Except.bind, pure, Except.pure, Except.map, unite]

/-- The blocks of a description do the same where the symbol of one more block is taken from the
start, unless they declare it. -/
theorem exists_blocks_insertOnce {blocks : List Block} {symbol : String}
    {unit : DeclarationUnit × τ} (refuses : faults.RefusesBlocks)
    (builtin : generator.templates = .builtin)
    (known : ∀ block ∈ blocks, ∃ symbol ∈ symbols, generator.baseSymbol block.info = .ok symbol)
    (ran : (blocks.forM (generator.runBlock (.toUnitWith faults) true)).outcome
      { destination := unit, reserved := symbols } = (result, after))
    (undeclared : symbol ∉ after.destination.1.names) :
    ∃ after', (blocks.forM (generator.runBlock (.toUnitWith faults) true)).outcome
        { destination := unit, reserved := insertOnce symbols symbol } = (result, after') ∧
      after'.destination = after.destination ∧ after'.outcomes = after.outcomes := by
  by_cases old : symbol ∈ symbols
  · have same : insertOnce symbols symbol = symbols := if_pos (by simpa using old)
    exact ⟨after, same.symm ▸ ran, rfl, rfl⟩
  · have start : RunsBeside symbol symbols
        { destination := unit, reserved := symbols : RunState (DeclarationUnit × τ) }
        { destination := unit, reserved := insertOnce symbols symbol } :=
      ⟨rfl, rfl, fun _ => mem_insertOnce, old, List.Subset.refl _⟩
    obtain ⟨after', ran', beside⟩ := start.blocks refuses builtin known ran undeclared
    exact ⟨after', ran', beside.destination, beside.outcomes⟩

/-- A block at the end of a description has no effect on the blocks before it, unless they declare
its name: they have the outcomes and the sections that they have without it, and the run is
interrupted before the last block if it is without it. All that the last block can add is its
outcome, and a section if it is generated. -/
theorem run_prefix_stable {settings : Settings}
    (configured : Generator.ofSettings settings = .ok generator) (refuses : faults.RefusesBlocks)
    (memory : τ) (schema : Schema) {symbol : String}
    (spelt : generator.baseSymbol block.info = .ok symbol)
    (undeclared : symbol ∉ (generator.runWith faults memory schema).2.destination.1.names) :
    let alone := generator.runWith faults memory schema
    let longer := generator.runWith faults memory { schema with blocks := schema.blocks ++ [block] }
    ∃ outcomes sections,
      longer.2.outcomes = alone.2.outcomes ++ outcomes ∧
      longer.2.destination.1.sections = alone.2.destination.1.sections ++ sections ∧
      sections.length = (outcomes.filter (·.result.isGenerated)).length ∧
      outcomes.map (·.name) <+: [block.name] ∧
      (∀ report, alone.1 = .ok report →
        alone.2.outcomes.map (·.name) = schema.blocks.map (·.name)) ∧
      ∀ cause, alone.1 = .error cause → longer.1 = .error cause ∧ outcomes = [] := by
  have builtin := templates_ofSettings configured
  simp only [runWith, run_eq, outcome_runThrough, blockSymbols_append spelt] at undeclared ⊢
  cases all : generator.blockSymbols schema with
  | error fault =>
    refine ⟨[], [], ?_, ?_, rfl, List.nil_prefix, ?_, fun cause same => ⟨same, rfl⟩⟩ <;>
      simp [Except.map]
  | ok symbols =>
    simp only [all, Except.map, Running.outcome_forM_append, Running.outcome_forM_cons]
      at undeclared ⊢
    -- the blocks before run with one more taken name, that of the last block
    rcases ran : (schema.blocks.forM (generator.runBlock (.toUnitWith faults) true)).outcome
      { destination := (({ source := schema.source } : DeclarationUnit), memory)
        reserved := symbols } with ⟨cause | _, after⟩
    · rw [ran] at undeclared
      obtain ⟨after', ran', unit, outcomes⟩ := exists_blocks_insertOnce refuses builtin
        (fun block member => exists_symbol all member) ran undeclared
      rw [ran']
      refine ⟨[], [], ?_, ?_, rfl, List.nil_prefix, ?_, fun _ same => ⟨same, rfl⟩⟩
      · simp [outcomes]
      · simp [unit]
      · simp
    · rw [ran] at undeclared
      obtain ⟨after', ran', unit, outcomes⟩ := exists_blocks_insertOnce refuses builtin
        (fun block member => exists_symbol all member) ran undeclared
      rw [ran']
      dsimp only
      have names := map_name_outcomes faults schema.blocks ran
      have ended := blockEnd_runBlock generator (.toUnitWith faults) true block after'
      rcases step : (generator.runBlock (.toUnitWith faults) true block).outcome after' with
        ⟨cause | _, last⟩
      all_goals
        rw [step] at ended
        obtain ⟨more, sections, grown, text, count, added⟩ := ended.sections
        rw [outcomes] at grown
        rw [unit] at text
        refine ⟨more, sections, grown, text, count, ?_, fun _ _ => names, by simp⟩
        rw [added]
        split
        · exact List.prefix_rfl
        · exact List.nil_prefix

/-- The pattern in which the first commit is refused, and no other. -/
def firstRefused : Faults Bool where
  opening _ _ memory := (.none, memory)
  committing _ memory := (if memory then .none else some (.refused "no space left"), true)

/-- A module with one event. -/
def eventSample : Schema :=
  { source := .string "s.json"
    blocks :=
      [{ info := { name := "app", rawType := .single "Module" }
         events := [{ info := { name := "ready" } }] }] }

/-- A block that is called as the constant of the event. -/
def constantSample : Block := { info := { name := "evtAppReady", rawType := .single "Object" } }

/-- The names that a unit declares whose first commit is refused, and the symbol of a block. -/
def namesAndSymbol (settings : Settings) (schema : Schema) (block : Block) :
    Option (List String × Option String) :=
  (Generator.ofSettings settings).toOption.map fun generator =>
    ((generator.runWith firstRefused false schema).2.destination.1.names,
      (generator.baseSymbol block.info).toOption)

/-- The text of the module is refused, so nobody has the name of its constant, and the block behind
it changes nothing. -/
theorem run_prefix_stable_sample :
    ∃ generator, Generator.ofSettings {} = .ok generator ∧ firstRefused.RefusesBlocks ∧
      generator.baseSymbol constantSample.info = .ok "EvtAppReady" ∧
      (generator.runWith firstRefused false eventSample).2.destination.1.names = [] ∧
      (generator.runWith firstRefused false eventSample).2.outcomes <+:
        (generator.runWith firstRefused false
          { eventSample with blocks := eventSample.blocks ++ [constantSample] }).2.outcomes := by
  have evaluated : namesAndSymbol {} eventSample constantSample =
      some ([], some "EvtAppReady") := by decide +kernel
  obtain ⟨generator, configured, same⟩ := Option.map_eq_some_iff.mp evaluated
  obtain ⟨names, symbol⟩ := Prod.mk.inj same
  rw [toOption_eq_some_iff] at configured symbol
  have refuses : firstRefused.RefusesBlocks := fun _ _ _ _ _ _ => rfl
  obtain ⟨outcomes, -, grown, -⟩ :=
    run_prefix_stable configured refuses false eventSample symbol (by simp [names])
  exact ⟨generator, configured, refuses, symbol, names, outcomes, grown.symm⟩

end Generator

end HostBindings
