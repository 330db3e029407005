import HostBindings.Generation
import HostBindings.Proofs.Runs.Nested
import HostBindings.Proofs.Runs.Units

/-!
# Names of a whole unit

The blocks of a description go to one unit, and some of them may fail. What the unit declares in the
end are the symbols of the generated blocks, and the names that were claimed for what is in them.
The latter are different from each other and from all symbols, so a name is declared twice only
where two blocks have one symbol; and that is what the review of a description warns of.

## Main definitions

* `Generator.generatedSymbols` — the symbols of the blocks that were generated
* `UnitNames` — the names of a unit between two blocks

## Main results

* `Generator.UnitNames.runBlock`, `Generator.UnitNames.blocks` — one block, and all of them
* `Generator.unit_names_nodup_iff`
-/

namespace HostBindings

open Api (Block Schema)

variable {τ : Type}

/-! ### Symbols -/

theorem mem_insertOnce {items : List String} {item other : String} :
    other ∈ insertOnce items item ↔ other ∈ items ∨ other = item := by
  unfold insertOnce
  split
  next there =>
    have member : item ∈ items := by simpa using there
    exact ⟨.inl, fun either => either.elim id fun same => same ▸ member⟩
  next => simp

theorem mem_unite {items more : List String} {item : String} :
    item ∈ unite items more ↔ item ∈ items ∨ item ∈ more := by
  unfold unite
  induction more generalizing items with
  | nil => simp
  | cons head rest ih => rw [List.foldl_cons, ih, mem_insertOnce, List.mem_cons, or_assoc]

namespace Generator

variable {generator : Generator} {faults : Faults τ}

/-- Every block has one of the symbols that are taken from the start. -/
theorem exists_symbol {schema : Schema} {symbols : List String}
    (all : generator.blockSymbols schema = .ok symbols) {block : Block}
    (member : block ∈ schema.blocks) :
    ∃ symbol ∈ symbols, generator.baseSymbol block.info = .ok symbol := by
  obtain ⟨each, mapped, same⟩ := bind_eq_ok_iff.mp all
  cases same
  obtain ⟨symbol, symbolMember, spelt⟩ :=
    exists_result_of_mem (forall₂_of_mapM_eq_ok mapped) member
  exact ⟨symbol, mem_unite.mpr (.inr symbolMember), spelt⟩

/-- The symbols of the blocks whose outcome says that they were generated, in order. -/
def generatedSymbols (generator : Generator) (blocks : List Block) (outcomes : List Outcome) :
    List String :=
  (blocks.zip outcomes).filterMap fun (block, outcome) =>
    if outcome.result.isGenerated then (generator.baseSymbol block.info).toOption else none

theorem generatedSymbols_cons (block : Block) (rest : List Block) (outcome : Outcome)
    (more : List Outcome) :
    generator.generatedSymbols (block :: rest) (outcome :: more) =
      generator.generatedSymbols [block] [outcome] ++ generator.generatedSymbols rest more := by
  rw [generatedSymbols, List.zip_cons_cons, ← List.singleton_append, List.filterMap_append]
  rfl

/-! ### One block -/

/-- Between two blocks, a unit declares the symbols `own` of the blocks that were generated, and
names that were claimed beyond the symbols of all blocks. -/
structure UnitNames (symbols own : List String) (state : RunState (DeclarationUnit × τ)) :
    Prop where
  /-- The text of a section is the text of its declarations. -/
  printed : ∀ entry ∈ state.destination.1.sections, entry.text = Code.textOf entry.declarations
  /-- The declared names are the symbols and names that were claimed. -/
  names : ∃ claimed, state.destination.1.names.Perm (own ++ claimed) ∧ claimed.Nodup ∧
    (∀ name ∈ claimed, name ∉ symbols) ∧ claimed ⊆ state.reserved
  /-- The symbols are those of blocks. -/
  own : own ⊆ symbols
  /-- The symbols of all blocks are taken. -/
  symbols : symbols ⊆ state.reserved

/-- A pass declares the symbol of its block and names that were free; its text is theirs. -/
theorem exists_claimed {block : Block} {reserved : List String} {start pass : Pass} {count : Nat}
    (builtin : generator.templates = .builtin)
    (started : Pass.start generator block reserved = .ok start)
    (run : Emit.Runs (generator.emission block) start count pass)
    (taken : start.scope.symbol ∈ reserved) :
    pass.sink.text = Code.textOf pass.sink.declarations ∧
      ∃ claimed, pass.scope.names = reserved ++ claimed ∧ claimed.Nodup ∧
        (∀ name ∈ claimed, name ∉ reserved) ∧
        (pass.sink.declarations.flatMap (·.names)).Perm (start.scope.symbol :: claimed) := by
  obtain ⟨primary, nested, -, progress, empty, -⟩ := progress_emission builtin started run
  obtain ⟨claimed, names, nodup, fresh, perm⟩ := progress.accounts
  have before : start.scope.names = reserved := by
    obtain ⟨symbol, stem, -, -, rfl⟩ := start_eq_ok.mp started
    exact if_pos taken
  rw [before] at names fresh
  rw [empty, List.map_nil, List.append_nil, ← progress.written] at perm
  exact ⟨progress.prints.text, claimed, names, nodup, fresh, perm⟩

/-- What leaves the unit and the taken names as they are keeps the names of the unit. -/
theorem UnitNames.of_same {symbols own : List String}
    {before after : RunState (DeclarationUnit × τ)} (names : UnitNames symbols own before)
    (unit : after.destination.1 = before.destination.1)
    (reserved : after.reserved = before.reserved) :
    UnitNames symbols own after where
  printed := unit ▸ names.printed
  names := by
    rw [unit, reserved]
    exact names.names
  own := names.own
  symbols := reserved ▸ names.symbols

/-- A generated block adds its symbol and names that were free. -/
theorem UnitNames.commit {symbols own : List String} {before after : RunState (DeclarationUnit × τ)}
    {block : Block} {start pass : Pass} {count : Nat} (builtin : generator.templates = .builtin)
    (names : UnitNames symbols own before)
    (started : Pass.start generator block before.reserved = .ok start)
    (known : start.scope.symbol ∈ symbols)
    (run : Emit.Runs (generator.emission block) start count pass)
    (unit : after.destination.1 = before.destination.1.commit pass.sink)
    (reserved : after.reserved = pass.scope.names) :
    UnitNames symbols (own ++ [start.scope.symbol]) after := by
  obtain ⟨text, more, grown, nodup, fresh, perm⟩ :=
    exists_claimed builtin started run (names.symbols known)
  obtain ⟨claimed, all, once, apart, old⟩ := names.names
  constructor
  · intro entry member
    rw [unit, DeclarationUnit.commit, List.mem_append, List.mem_singleton] at member
    rcases member with earlier | rfl
    · exact names.printed entry earlier
    · exact text
  · refine ⟨claimed ++ more, ?_, ?_, ?_, ?_⟩
    · have both := all.append perm
      rw [unit]
      -- the new symbol goes behind the older ones, before all names that were claimed
      simp only [DeclarationUnit.names, DeclarationUnit.commit, List.flatMap_append,
        List.flatMap_cons, List.flatMap_nil, List.append_nil, Section.names]
      refine both.trans ?_
      rw [List.perm_iff_count]
      intro name
      simp only [List.count_append, List.count_cons, List.count_nil]
      omega
    · refine List.nodup_append.mpr ⟨once, nodup, ?_⟩
      rintro name earlier _ later rfl
      exact fresh name later (old earlier)
    · intro name member
      rcases List.mem_append.mp member with earlier | later
      · exact apart name earlier
      · exact fun symbol => fresh name later (names.symbols symbol)
    · rw [reserved, grown]
      exact List.append_subset.mpr
        ⟨fun name member => List.mem_append_left _ (old member), List.subset_append_right _ _⟩
  · exact List.append_subset.mpr ⟨names.own, List.cons_subset.mpr ⟨known, List.nil_subset _⟩⟩
  · rw [reserved, grown]
    exact fun name member => List.mem_append_left _ (names.symbols member)

/-- One block: its symbol is added if it is generated, and no name otherwise. -/
theorem UnitNames.runBlock {symbols own : List String}
    {before after : RunState (DeclarationUnit × τ)} {block : Block} {symbol : String}
    {result : Except Interruption Unit} (builtin : generator.templates = .builtin)
    (names : UnitNames symbols own before)
    (spelt : generator.baseSymbol block.info = .ok symbol) (known : symbol ∈ symbols)
    (ended : generator.BlockEnd (.toUnitWith faults) true block before result after) :
    (∃ outcome, result = .ok () ∧ after.outcomes = before.outcomes ++ [outcome] ∧
        UnitNames symbols (own ++ generator.generatedSymbols [block] [outcome]) after) ∨
      (∃ cause, result = .error cause ∧ after.outcomes = before.outcomes ∧
        UnitNames symbols own after) := by
  cases ended with
  | unprepared _ same adds =>
    exact .inr ⟨_, rfl, by simpa using adds.outcomes,
      names.of_same (congrArg Prod.fst same) adds.reserved⟩
  | lost _ _ keeps adds =>
    exact .inr ⟨_, rfl, by simpa using adds.outcomes, names.of_same keeps.unit adds.reserved⟩
  | skipped _ same adds =>
    refine .inl ⟨_, rfl, adds.outcomes, ?_⟩
    simpa [generatedSymbols, BlockResult.isGenerated] using
      names.of_same (congrArg Prod.fst same) adds.reserved
  | failed fault _ keeps adds =>
    refine .inl ⟨_, rfl, adds.outcomes, ?_⟩
    simpa [generatedSymbols, BlockResult.isGenerated] using names.of_same keeps.unit adds.reserved
  | @generated start pass nested handle middle _ prepared run keeps committed adds =>
    -- only here the unit takes a text, and with it the names that the pass has declared
    obtain ⟨-, started⟩ := prepare_eq_some.mp prepared
    have same := symbol_of_start started spelt
    have unit := (Destination.commit_toUnitWith committed).trans (by rw [keeps.unit])
    refine .inl ⟨_, rfl, adds.outcomes, ?_⟩
    have next := names.commit builtin started (same ▸ known) run unit adds.reserved
    simpa [generatedSymbols, BlockResult.isGenerated, spelt, same, Except.toOption] using next

/-! ### All blocks -/

/-- The blocks of a run: the symbols of the generated ones are added, and no others. -/
theorem UnitNames.blocks (faults : Faults τ) {symbols own : List String} {blocks : List Block}
    {before : RunState (DeclarationUnit × τ)} (builtin : generator.templates = .builtin)
    (names : UnitNames symbols own before)
    (known : ∀ block ∈ blocks, ∃ symbol ∈ symbols, generator.baseSymbol block.info = .ok symbol) :
    ∃ outcomes,
      (((blocks.forM (generator.runBlock (.toUnitWith faults) true)).outcome before).2.outcomes =
        before.outcomes ++ outcomes) ∧
      UnitNames symbols (own ++ generator.generatedSymbols blocks outcomes)
        ((blocks.forM (generator.runBlock (.toUnitWith faults) true)).outcome before).2 := by
  -- on the blocks, with the symbols of those before as `own`
  induction blocks generalizing before own with
  | nil => exact ⟨[], by simp [Running.outcome_pure], by simpa [generatedSymbols] using names⟩
  | cons block rest ih =>
    obtain ⟨symbol, member, spelt⟩ := known block List.mem_cons_self
    have ended := blockEnd_runBlock generator (.toUnitWith faults) true block before
    rw [Running.outcome_forM_cons]
    rcases step : (generator.runBlock (.toUnitWith faults) true block).outcome before with
      ⟨result, after⟩
    rw [step] at ended
    rcases names.runBlock builtin spelt member ended with
      ⟨outcome, rfl, outcomes, next⟩ | ⟨cause, rfl, outcomes, next⟩
    · obtain ⟨more, all, final⟩ := ih next fun other otherMember =>
        known other (List.mem_cons_of_mem _ otherMember)
      refine ⟨outcome :: more, ?_, ?_⟩
      · rw [all, outcomes, List.append_assoc]
        rfl
      · rw [generatedSymbols_cons, ← List.append_assoc]
        exact final
    · exact ⟨[], by simpa using outcomes, by simpa [generatedSymbols] using next⟩

/-! ### Warnings of the review -/

/-- The symbols of blocks, in order. -/
def symbolsOf (generator : Generator) (blocks : List Block) : List String :=
  blocks.filterMap fun block => (generator.baseSymbol block.info).toOption

theorem generatedSymbols_sublist (blocks : List Block) (outcomes : List Outcome) :
    (generator.generatedSymbols blocks outcomes).Sublist (generator.symbolsOf blocks) := by
  induction blocks generalizing outcomes with
  | nil => exact List.nil_sublist _
  | cons block rest ih =>
    cases outcomes with
    | nil => exact List.nil_sublist _
    | cons outcome more =>
      have split : generator.symbolsOf (block :: rest) =
          generator.symbolsOf [block] ++ generator.symbolsOf rest :=
        List.filterMap_append (l := [block])
      rw [generatedSymbols_cons, split]
      refine List.Sublist.append ?_ (ih more)
      simp only [symbolsOf, generatedSymbols, List.zip_cons_cons, List.zip_nil_right,
        List.filterMap_cons, List.filterMap_nil]
      by_cases generated : outcome.result.isGenerated
      · rw [if_pos generated]
      · rw [if_neg generated]
        exact List.nil_sublist _

/-- The review of a list of blocks: that of the others is part of it, with the symbol of the first
among those that were seen. -/
private theorem reviewBlocks_cons {source : String} {seen : List (String × String)} {block : Block}
    {rest : List Block} {remarks : List Remark}
    (reviewed : generator.reviewBlocks source seen (block :: rest) = .ok remarks) :
    ∃ own known more, generator.baseSymbol block.info = .ok own ∧
      generator.reviewBlocks source known rest = .ok more ∧ more ⊆ remarks ∧
      (∀ symbol, (seen.lookup symbol).isSome → (known.lookup symbol).isSome) ∧
      (known.lookup own).isSome ∧
      ((seen.lookup own).isSome → ∃ first, Remark.clash first block.name own ∈ remarks) := by
  rw [reviewBlocks, bind_eq_ok_iff] at reviewed
  obtain ⟨own, spelt, reviewed⟩ := reviewed
  -- a clash is remarked, and only a new symbol is added to those that were seen
  cases found : seen.lookup own with
  | some first =>
    simp only [found] at reviewed
    obtain ⟨more, others, same⟩ := bind_eq_ok_iff.mp reviewed
    cases same
    refine ⟨own, seen, more, spelt, others, List.subset_append_right _ _, fun _ => id,
      by simp [found], fun _ => ⟨first, by simp⟩⟩
  | none =>
    simp only [found] at reviewed
    obtain ⟨more, others, same⟩ := bind_eq_ok_iff.mp reviewed
    cases same
    refine ⟨own, _, more, spelt, others, List.subset_append_right _ _, ?_, ?_, ?_⟩
    · intro symbol there
      rw [List.lookup_append]
      simp [there]
    · simp [List.lookup_append]
    · rw [found]
      exact fun there => by cases there

/-- A block whose symbol was seen before is reported. -/
theorem clash_of_seen {source symbol : String} {seen : List (String × String)}
    {blocks : List Block} {remarks : List Remark}
    (reviewed : generator.reviewBlocks source seen blocks = .ok remarks)
    (earlier : (seen.lookup symbol).isSome) (later : symbol ∈ generator.symbolsOf blocks) :
    ∃ first second, Remark.clash first second symbol ∈ remarks := by
  induction blocks generalizing seen remarks with
  | nil => simp [symbolsOf] at later
  | cons block rest ih =>
    obtain ⟨own, known, more, spelt, others, sub, grows, -, clash⟩ := reviewBlocks_cons reviewed
    by_cases same : own = symbol
    · subst same
      obtain ⟨first, reported⟩ := clash earlier
      exact ⟨first, block.name, reported⟩
    · have rest : symbol ∈ generator.symbolsOf rest := by
        simpa [symbolsOf, spelt, Except.toOption, Ne.symm same] using later
      obtain ⟨first, second, reported⟩ := ih others (grows symbol earlier) rest
      exact ⟨first, second, sub reported⟩

/-- Two blocks of one symbol are reported. -/
theorem clash_of_count {source symbol : String} {seen : List (String × String)}
    {blocks : List Block} {remarks : List Remark}
    (reviewed : generator.reviewBlocks source seen blocks = .ok remarks)
    (twice : 2 ≤ (generator.symbolsOf blocks).count symbol) :
    ∃ first second, Remark.clash first second symbol ∈ remarks := by
  induction blocks generalizing seen remarks with
  | nil => simp [symbolsOf] at twice
  | cons block rest ih =>
    obtain ⟨own, known, more, spelt, others, sub, -, seen, -⟩ := reviewBlocks_cons reviewed
    have split : generator.symbolsOf (block :: rest) = own :: generator.symbolsOf rest := by
      simp [symbolsOf, spelt, Except.toOption]
    rw [split, List.count_cons] at twice
    by_cases same : own = symbol
    · subst same
      have again : own ∈ generator.symbolsOf rest := by
        refine List.count_pos_iff.mp ?_
        simp only [beq_self_eq_true, if_true] at twice
        omega
      obtain ⟨first, second, reported⟩ := clash_of_seen others seen again
      exact ⟨first, second, sub reported⟩
    · have rest : 2 ≤ (generator.symbolsOf rest).count symbol := by simpa [same] using twice
      obtain ⟨first, second, reported⟩ := ih others rest
      exact ⟨first, second, sub reported⟩

/-! ### Generations -/

/-- What a generation answers, its log aside. -/
def answer (generator : Generator) (schema : Schema) : Except GenerationFault Generation :=
  ((generator.generate schema).run.run []).1

theorem answer_eq (generator : Generator) (schema : Schema) :
    generator.answer schema =
      if schema.blocks.isEmpty then .error (.noBlocks schema.source.text)
      else
        match generator.reviewAndRun .toUnit true schema { source := schema.source } with
        | (.error cause, _, _) => .error (.interrupted cause)
        | (.ok (warnings, report), unit, _) =>
          match generator.unitCode schema unit with
          | .error fault => .error (.header fault)
          | .ok code => .ok { code, warnings, blockCount := schema.blocks.length, report } := by
  unfold answer generate
  by_cases none : schema.blocks.isEmpty
  · simp only [none, if_true]
    rfl
  · simp only [none, Bool.false_eq_true, if_false]
    rcases generator.reviewAndRun .toUnit true schema { source := schema.source } with
      ⟨_ | ⟨warnings, report⟩, unit, log⟩
    · rfl
    · cases coded : generator.unitCode schema unit <;> simp [coded] <;> rfl

/-- A generation comes from a review and a run with a report, and is the code of what the run has
committed. -/
theorem exists_run_of_answer {schema : Schema} {generation : Generation}
    (answered : generator.answer schema = .ok generation) :
    ∃ remarks report state, generator.review schema = .ok remarks ∧
      (generator.run .toUnit true schema).outcome { destination := { source := schema.source } } =
        (.ok report, state) ∧
      ∃ code, generator.unitCode schema state.destination = .ok code ∧
        generation =
          { code, warnings := remarks.map Remark.message ++ report.warnings
            blockCount := schema.blocks.length, report } := by
  rw [answer_eq, reviewAndRun_eq] at answered
  split at answered
  · cases answered
  cases reviewed : generator.review schema with
  | error fault =>
    rw [reviewed] at answered
    cases answered
  | ok remarks =>
    rcases ran : (generator.run .toUnit true schema).outcome
      { destination := { source := schema.source } } with ⟨cause | report, state⟩
    all_goals
      rw [reviewed, ran] at answered
      dsimp only at answered
    · cases answered
    · split at answered
      · cases answered
      next coded =>
        cases answered
        exact ⟨remarks, report, state, rfl, rfl, _, coded, rfl⟩

/-- Two blocks of one symbol are among the warnings of a generation. -/
theorem clash_of_answer {schema : Schema} {generation : Generation} {symbol : String}
    (answered : generator.answer schema = .ok generation)
    (twice : 2 ≤ (generator.symbolsOf schema.blocks).count symbol) :
    ∃ first second, (Remark.clash first second symbol).message ∈ generation.warnings := by
  obtain ⟨remarks, report, _, reviewed, -, code, -, rfl⟩ := exists_run_of_answer answered
  obtain ⟨blocks, blocksReviewed, rest⟩ := bind_eq_ok_iff.mp reviewed
  obtain ⟨first, second, reported⟩ := clash_of_count blocksReviewed twice
  refine ⟨first, second, List.mem_append_left _ (List.mem_map_of_mem ?_)⟩
  obtain ⟨flaws, -, same⟩ := bind_eq_ok_iff.mp rest
  cases same
  simp [reported]

/-! ### The whole unit -/

/-- In the end the unit declares the symbols of the generated blocks, and names that were
claimed. -/
theorem unitNames_runWith (builtin : generator.templates = .builtin) (faults : Faults τ)
    (memory : τ) (schema : Schema) :
    ∃ symbols,
      UnitNames symbols
        (generator.generatedSymbols schema.blocks
          (generator.runWith faults memory schema).2.outcomes)
        (generator.runWith faults memory schema).2 := by
  rw [runWith, run_eq, outcome_runThrough]
  cases all : generator.blockSymbols schema with
  | error fault =>
    refine ⟨[], ?_, ⟨[], ?_⟩, ?_, ?_⟩ <;> simp [generatedSymbols, DeclarationUnit.names]
  | ok symbols =>
    -- before the first block the unit is empty, and the symbols of all blocks are taken
    have start : UnitNames symbols []
        { destination := (({ source := schema.source } : DeclarationUnit), memory)
          reserved := symbols } := by
      refine ⟨?_, ⟨[], ?_⟩, ?_, ?_⟩ <;> simp [DeclarationUnit.names]
    obtain ⟨outcomes, same, names⟩ :=
      start.blocks faults builtin fun block member => exists_symbol all member
    rw [List.nil_append] at same names
    rw [← same] at names
    refine ⟨symbols, ?_⟩
    dsimp only
    split
    next after ran =>
      rw [ran] at names
      exact names
    next after ran =>
      rw [ran] at names
      exact names.of_same rfl rfl

/-- A name is declared twice in a unit exactly where two generated blocks have one symbol, whichever
sinks fail; the text of the unit is the text of what it declares. Every name that is declared twice
is the symbol of two blocks, and where the description is generated, a warning says so. -/
theorem unit_names_nodup_iff {settings : Settings}
    (configured : Generator.ofSettings settings = .ok generator) (faults : Faults τ) (memory : τ)
    (schema : Schema) :
    ((generator.runWith faults memory schema).2.destination.1.names.Nodup ↔
      (generator.generatedSymbols schema.blocks
        (generator.runWith faults memory schema).2.outcomes).Nodup) ∧
    (∀ entry ∈ (generator.runWith faults memory schema).2.destination.1.sections,
      entry.text = Code.textOf entry.declarations) ∧
    ∀ symbol, 2 ≤ (generator.runWith faults memory schema).2.destination.1.names.count symbol →
      ∀ generation, generator.answer schema = .ok generation →
        ∃ first second, (Remark.clash first second symbol).message ∈ generation.warnings := by
  obtain ⟨symbols, names⟩ :=
    unitNames_runWith (templates_ofSettings configured) faults memory schema
  obtain ⟨claimed, perm, once, apart, -⟩ := names.names
  refine ⟨?_, names.printed, ?_⟩
  · rw [perm.nodup_iff, List.nodup_append]
    refine ⟨fun both => both.1, fun own => ⟨own, once, ?_⟩⟩
    rintro name owned _ claim rfl
    exact apart name claim (names.own owned)
  · intro symbol twice generation answered
    refine clash_of_answer answered (Nat.le_trans ?_ (List.Sublist.count_le _
      (generatedSymbols_sublist schema.blocks
        (generator.runWith faults memory schema).2.outcomes)))
    rw [perm.count_eq, List.count_append] at twice
    -- a claimed name is declared once, so what is declared twice is the symbol of two blocks
    by_cases claim : symbol ∈ claimed
    · have one := List.count_eq_one_of_mem once claim
      have none : List.count symbol (generator.generatedSymbols schema.blocks
          (generator.runWith faults memory schema).2.outcomes) = 0 :=
        List.count_eq_zero.mpr fun owned => apart symbol claim (names.own owned)
      omega
    · rw [List.count_eq_zero.mpr claim] at twice
      exact twice

/-- Two blocks of one name. -/
def clashSample : Schema :=
  { source := .string "s.json"
    blocks :=
      [{ info := { name := "a", rawType := .single "Object" } },
        { info := { name := "a", rawType := .single "Object" } }] }

/-- The names that the unit of a description declares under settings where no sink fails, and
whether the description is generated. -/
def namesAndSuccess (settings : Settings) (schema : Schema) : Option (List String × Bool) :=
  (Generator.ofSettings settings).toOption.map fun generator =>
    ((generator.runWith .none () schema).2.destination.1.names, (generator.answer schema).isOk)

theorem exists_names {settings : Settings} {schema : Schema} {names : List String} {ok : Bool}
    (evaluated : namesAndSuccess settings schema = some (names, ok)) :
    ∃ generator, Generator.ofSettings settings = .ok generator ∧
      (generator.runWith .none () schema).2.destination.1.names = names ∧
      (generator.answer schema).isOk = ok := by
  obtain ⟨generator, configured, same⟩ := Option.map_eq_some_iff.mp evaluated
  obtain ⟨names, ok⟩ := Prod.mk.inj same
  exact ⟨generator, toOption_eq_some_iff.mp configured, names, ok⟩

theorem unit_names_nodup_iff_sample :
    ∃ generator generation, Generator.ofSettings {} = .ok generator ∧
      (generator.runWith .none () clashSample).2.destination.1.names = ["A", "A"] ∧
      generator.answer clashSample = .ok generation ∧
      ¬ (generator.generatedSymbols clashSample.blocks
        (generator.runWith .none () clashSample).2.outcomes).Nodup ∧
      ∃ first second, (Remark.clash first second "A").message ∈ generation.warnings := by
  have evaluated : namesAndSuccess {} clashSample = some (["A", "A"], true) := by decide +kernel
  obtain ⟨generator, configured, names, ok⟩ := exists_names evaluated
  obtain ⟨generation, answered⟩ : ∃ generation, generator.answer clashSample = .ok generation := by
    cases answered : generator.answer clashSample with
    | error => simp [answered, Except.isOk, Except.toBool] at ok
    | ok generation => exact ⟨generation, rfl⟩
  obtain ⟨iff, -, clash⟩ := unit_names_nodup_iff configured .none () clashSample
  refine ⟨generator, generation, configured, names, answered, ?_, ?_⟩
  · rw [← iff, names]
    decide
  · exact clash "A" (by rw [names]; decide) generation answered

/-- The warnings of an answer; one that is an error has none. -/
def warningsOf : Except GenerationFault Generation → List String
  | .ok generation => generation.warnings
  | .error _ => []

/-- A description whose generation ends in an error has no warning of a name that is declared twice:
here the package name of the settings is no text. -/
theorem exists_clash_without_warning :
    ¬ ∀ (settings : Settings) (generator : Generator),
      Generator.ofSettings settings = .ok generator →
      ∀ {τ : Type} (faults : Faults τ) (memory : τ) (schema : Schema) (symbol : String),
        2 ≤ (generator.runWith faults memory schema).2.destination.1.names.count symbol →
        ∃ first second,
          (Remark.clash first second symbol).message ∈ warningsOf (generator.answer schema) := by
  intro reported
  have evaluated : namesAndSuccess { packageName := .int 5 } clashSample =
      some (["A", "A"], false) := by decide +kernel
  obtain ⟨generator, configured, names, failed⟩ := exists_names evaluated
  obtain ⟨first, second, warned⟩ :=
    reported _ generator configured .none () clashSample "A" (by rw [names]; decide)
  cases answered : generator.answer clashSample with
  | ok => simp [answered, Except.isOk, Except.toBool] at failed
  | error fault => simp [answered, warningsOf] at warned

end Generator

end HostBindings
