import HostBindings.Proofs.Runs.Modes
import HostBindings.Proofs.Runs.Neighbours

/-!
# Descriptions that share a block

Two descriptions of one source, whose blocks have the same symbols, are generated into directories
that are the same at first. A block of both whose path no other block has comes to the same in both
runs, and its file holds the same, whatever the other blocks are, in whatever order they come, and
whether or not they fail.

Both runs must come to an end: a setting that cannot be used for another block ends a run. And the
reason why the file cannot be opened need not be the same, where another block has made directories
that the path of the directory only passes.

## Main definitions

* `Generator.SameSymbols` — descriptions whose blocks have the same symbols
* `Generator.Unshared` — a block whose path no other block has

## Main results

* `Generator.blockText_of_same_symbols` — the text of the file of a block
* `Generator.blocks_independent`
-/

namespace HostBindings

open Api (Block Schema)

namespace Generator

variable {generator : Generator} {directory : Path} {source : Json} {block : Block}
  {symbol : String} {tree : FileTree}

/-- The blocks of two descriptions have the same symbols. -/
def SameSymbols (generator : Generator) (blocks blocks' : List Block) : Prop :=
  ∀ symbol, (∃ block ∈ blocks', generator.baseSymbol block.info = .ok symbol) ↔
    ∃ block ∈ blocks, generator.baseSymbol block.info = .ok symbol

/-- The path of a block is that of no other block. -/
def Unshared (generator : Generator) (directory : Path) (block : Block) (others : List Block) :
    Prop :=
  ∀ other ∈ others, generator.outputPath other directory ≠ generator.outputPath block directory

/-! ### Names -/

/-- The names that are taken from the start are the symbols of the blocks. -/
theorem mem_blockSymbols {schema : Schema} {symbols : List String}
    (all : generator.blockSymbols schema = .ok symbols) :
    symbol ∈ symbols ↔ ∃ block ∈ schema.blocks, generator.baseSymbol block.info = .ok symbol := by
  constructor
  · intro member
    obtain ⟨each, mapped, same⟩ := bind_eq_ok_iff.mp all
    cases same
    rcases mem_unite.mp member with none | listed
    · cases none
    · exact exists_item_of_mem (forall₂_of_mapM_eq_ok mapped) listed
  · rintro ⟨block, member, spelt⟩
    obtain ⟨other, listed, same⟩ := exists_symbol all member
    cases spelt.symm.trans same
    exact listed

/-- Where the blocks have the same symbols, the same names are taken. -/
theorem SameSymbols.mem_iff {schema schema' : Schema} {symbols symbols' : List String}
    (same : generator.SameSymbols schema.blocks schema'.blocks)
    (named : generator.blockSymbols schema = .ok symbols)
    (named' : generator.blockSymbols schema' = .ok symbols') (name : String) :
    name ∈ symbols' ↔ name ∈ symbols := by
  rw [mem_blockSymbols named, mem_blockSymbols named', same]

/-- The text of the file of a block depends on the source and on the symbols of the blocks alone. -/
theorem blockText_of_same_symbols (builtin : generator.templates = .builtin)
    {blocks blocks' : List Block} (same : generator.SameSymbols blocks blocks')
    (member : block ∈ blocks) {symbols' : List String}
    (named' : generator.blockSymbols ⟨source, blocks'⟩ = .ok symbols') {text : String}
    (made : generator.blockText ⟨source, blocks⟩ block = some text) :
    generator.blockText ⟨source, blocks'⟩ block = some text := by
  unfold blockText at made ⊢
  cases named : generator.blockSymbols ⟨source, blocks⟩ with
  | error fault => simp [named, Except.toOption] at made
  | ok symbols =>
    cases started : Pass.start generator block symbols with
    | error fault => simp [named, started, Except.toOption] at made
    | ok start =>
      have taken : start.scope.symbol ∈ symbols :=
        (mem_blockSymbols named).mpr ⟨block, member, baseSymbol_of_start started⟩
      obtain ⟨start', started', symbol', result, sink, -⟩ :=
        emission_of_same_names builtin (same.mem_iff named named') started taken
      simp only [named, started, Except.toOption, Option.bind_eq_bind, Option.bind_some] at made
      simp only [named', started', Except.toOption, Option.bind_eq_bind, Option.bind_some, symbol',
        result, sink]
      exact made

/-! ### A block of a run -/

/-- The path of a block that shares it with no other is not that of another symbol. -/
theorem Unshared.apart {others : List Block}
    (unshared : generator.Unshared directory block others)
    (spelt : generator.baseSymbol block.info = .ok symbol) {other : Block} (member : other ∈ others)
    (name : String) (named : generator.baseSymbol other.info = .ok name) :
    blockPath directory name ≠ blockPath directory symbol := by
  intro same
  refine unshared other member ?_
  rw [outputPath_eq_ok.mpr ⟨name, named, rfl⟩, outputPath_eq_ok.mpr ⟨symbol, spelt, rfl⟩, same]

variable [WorkingDirectory]

/-- A block of a run that comes to its end: the run has come past the blocks before it, and what the
block comes to is its outcome. -/
theorem exists_outcome {before after : List Block} {state last : RunState OutputDirectory}
    (ran : ((before ++ block :: after).forM (generator.runBlock
      (.toDirectory generator directory source) false)).outcome state = (.ok (), last)) :
    ∃ middle result more,
      (before.forM (generator.runBlock (.toDirectory generator directory source) false)).outcome
        state = (.ok (), middle) ∧
      (generator.comesTo (.toDirectory generator directory source) block middle.reserved
        middle.destination).1 = .ok result ∧
      last.outcomes = middle.outcomes ++ ⟨block.name, result⟩ :: more := by
  rw [Running.outcome_forM_append] at ran
  -- had a block before, or the block itself, ended the run, the whole run would have ended there
  rcases first : (before.forM (generator.runBlock (.toDirectory generator directory source)
    false)).outcome state with ⟨cause | _, middle⟩
  all_goals rw [first] at ran
  · cases ran
  · dsimp only at ran
    rw [Running.outcome_forM_cons] at ran
    obtain ⟨ends, -, -, outcomes, -⟩ :=
      generator.runBlock_comesTo (.toDirectory generator directory source) block middle
    rcases own : (generator.runBlock (.toDirectory generator directory source) false
      block).outcome middle with ⟨cause | _, next⟩
    all_goals rw [own] at ran ends outcomes
    · cases ran
    · dsimp only at ran ends outcomes
      cases came : (generator.comesTo (.toDirectory generator directory source) block
        middle.reserved middle.destination).1 with
      | error cause =>
        rw [came] at ends
        cases ends
      | ok result =>
        rw [came] at outcomes
        obtain ⟨more, grown⟩ := exists_outcomes generator
          (.toDirectory generator directory source) false after next
        rw [ran, outcomes] at grown
        refine ⟨middle, result, more, rfl, came, ?_⟩
        rw [grown, List.append_assoc]
        rfl

/-! ### A block of a description -/

variable {before after before' after' : List Block} {log log' : Log}
  {generation generation' : Generation} {outcomes more : List Outcome} {result : BlockResult}

/-- A block of a description that is generated into a directory, where there is a report. -/
theorem exists_outcome_of_generateFiles
    (reported : ((generator.generateFiles ⟨source, before ++ block :: after⟩ directory tree).run
      log).1.1 = .ok generation) :
    ∃ symbols middle outcomes result more,
      generator.blockSymbols ⟨source, before ++ block :: after⟩ = .ok symbols ∧
      ((before.forM (generator.runBlock (.toDirectory generator directory source) false)).outcome
        (filesStart tree symbols)).2 = middle ∧
      (generator.comesTo (.toDirectory generator directory source) block middle.reserved
        middle.destination).1 = .ok result ∧
      generation.report.outcomes = outcomes ++ ⟨block.name, result⟩ :: more ∧
      outcomes.length = before.length := by
  have ended :=
    generator.filesEnd_generateFiles ⟨source, before ++ block :: after⟩ directory tree log
  generalize ((generator.generateFiles ⟨source, before ++ block :: after⟩ directory tree).run
    log).1 = first at reported ended
  obtain ⟨answer, written⟩ := first
  cases ended with
  | refused | interrupted => cases reported
  | @reported _ symbols _ named ran =>
    cases reported
    obtain ⟨middle, result, more, first, came, grown⟩ := exists_outcome ran
    exact ⟨symbols, middle, middle.outcomes, result, more, named, by rw [first], came, grown,
      ((Writes.start generator directory tree symbols).blocks first).length⟩

/-- The file of a block of a description: it holds the text of the block if that is reported as
generated, and is as it was otherwise. -/
theorem file_of_generateFiles
    (unshared : generator.Unshared directory block (before ++ after))
    (spelt : generator.baseSymbol block.info = .ok symbol)
    (reported : ((generator.generateFiles ⟨source, before ++ block :: after⟩ directory tree).run
      log).1.1 = .ok generation)
    (listed : generation.report.outcomes = outcomes ++ ⟨block.name, result⟩ :: more)
    (lengths : outcomes.length = before.length) :
    let last := ((generator.generateFiles ⟨source, before ++ block :: after⟩ directory tree).run
      log).1.2
    if result.isGenerated then
      ∃ text, generator.blockText ⟨source, before ++ block :: after⟩ block = some text ∧
        last.at? (blockPath directory symbol).place = some (.file text)
    else
      ∀ content, last.at? (blockPath directory symbol).place = some (.file content) ↔
        tree.at? (blockPath directory symbol).place = some (.file content) := by
  intro last
  -- the outcome of the block is the one in its place, so its file is told apart from the others
  have zipped : (before ++ block :: after).zip generation.report.outcomes =
      before.zip outcomes ++ (block, ⟨block.name, result⟩) :: after.zip more := by
    rw [listed, List.zip_append lengths.symm, List.zip_cons_cons]
  split
  next generated =>
    obtain ⟨-, texts⟩ := List.forall₂_iff_zip.mp (read_of_generateFiles reported)
    have both : (block, ⟨block.name, result⟩) ∈
        (before ++ block :: after).zip generation.report.outcomes := by
      rw [zipped]
      simp
    obtain ⟨path, text, placed, made, found, -⟩ := (texts both).2 generated
    obtain ⟨_, again, rfl⟩ := outputPath_eq_ok.mp placed
    cases spelt.symm.trans again
    exact ⟨text, made, found⟩
  next other =>
    obtain ⟨-, writes⟩ :=
      generator.generateFiles_writes ⟨source, before ++ block :: after⟩ directory tree log
    obtain ⟨state, same, final, writes⟩ := writes generation reported
    have changes := writes.changes
    rw [same, final] at changes
    refine fun content => changes.file_iff (fun member => ?_) content
    obtain ⟨path, written, there⟩ := List.mem_map.mp member
    obtain ⟨⟨owner, outcome⟩, both, kept⟩ := List.mem_filterMap.mp written
    dsimp only at both kept
    rw [zipped, List.mem_append, List.mem_cons] at both
    split at kept
    next generated =>
      obtain ⟨name, named, rfl⟩ := outputPath_eq_ok.mp (toOption_eq_some_iff.mp kept)
      -- a file that was written belongs to a block that was generated, so not to this one
      have owned : owner ∈ before ++ after := by
        rcases both with first | itself | later
        · exact List.mem_append_left _ (List.of_mem_zip first).1
        · cases itself
          exact absurd generated other
        · exact List.mem_append_right _ (List.of_mem_zip later).1
      exact unshared.apart spelt owned name named (blockPath_inj there)
    next => cases kept

/-- Two descriptions of one source that are generated into one directory of one tree, under the same
settings, where the blocks of both have the same symbols. If both runs come to an end, a block of
both whose path no other block has comes to the same: it is generated, skipped or fails for the same
reason, and the same is in the place of its file. Only the reason why its file cannot be opened may
differ, unless everything is in a directory, and the path of the output directory neither leads
upwards nor has a name that is too long. -/
theorem blocks_independent {settings : Settings}
    (configured : Generator.ofSettings settings = .ok generator) (source : Json) (block : Block)
    (before after before' after' : List Block)
    (same : generator.SameSymbols (before ++ block :: after) (before' ++ block :: after'))
    (directory : Path) (unshared : generator.Unshared directory block (before ++ after))
    (unshared' : generator.Unshared directory block (before' ++ after'))
    (tree : FileTree) (log log' : Log) :
    let first := ((generator.generateFiles ⟨source, before ++ block :: after⟩ directory tree).run
      log).1
    let second := ((generator.generateFiles ⟨source, before' ++ block :: after'⟩ directory
      tree).run log').1
    ∀ generation generation', first.1 = .ok generation → second.1 = .ok generation' →
      (∃ outcome outcome',
        generation.report.outcomes[before.length]? = some outcome ∧
        generation'.report.outcomes[before'.length]? = some outcome' ∧
        outcome.name = block.name ∧ OutcomeRepeats False outcome outcome' ∧
        (tree.IsClosed → ".." ∉ directory.parts →
          (∀ part ∈ directory.parts, part.utf8ByteSize ≤ nameLimit) → outcome' = outcome)) ∧
      ∀ path, generator.outputPath block directory = .ok path → ∀ content,
        second.2.at? path.place = some (.file content) ↔
          first.2.at? path.place = some (.file content) := by
  intro first second generation generation' reported reported'
  have builtin := templates_ofSettings configured
  have own : block ∈ before ++ block :: after := by simp
  obtain ⟨symbols, middle, outcomes, result, more, named, reaches, came, listed, lengths⟩ :=
    exists_outcome_of_generateFiles reported
  obtain ⟨symbols', middle', outcomes', result', more', named', reaches', came', listed',
    lengths'⟩ := exists_outcome_of_generateFiles reported'
  obtain ⟨symbol, taken, spelt⟩ := exists_symbol named own
  -- up to the block, both runs have left its path alone and start its pass with the same names
  have repeats (strict : Prop) (founds : strict → tree.Founds directory) :
      Repeats strict (.ok result) (.ok result') := by
    have behind : Behind strict directory symbol tree symbols middle :=
      reaches ▸ (Behind.start symbol founds).blocks fun _ member =>
        unshared.apart spelt (List.mem_append_left _ member)
    have behind' : Behind strict directory symbol tree symbols' middle' :=
      reaches' ▸ (Behind.start symbol founds).blocks fun _ member =>
        unshared'.apart spelt (List.mem_append_left _ member)
    rw [behind.reserved] at came
    rw [behind'.reserved] at came'
    exact behind.aside.comesTo_repeats builtin (same.mem_iff named named') spelt taken
      behind'.aside behind.founds behind'.founds came came'
  refine ⟨⟨⟨block.name, result⟩, ⟨block.name, result'⟩, ?_, ?_, rfl,
    ⟨rfl, repeats False False.elim⟩, fun closed straight short => ?_⟩, fun path made content => ?_⟩
  · rw [listed, ← lengths, List.getElem?_append_right le_rfl, Nat.sub_self]
    rfl
  · rw [listed', ← lengths', List.getElem?_append_right le_rfl, Nat.sub_self]
    rfl
  · cases repeats True fun _ => closed.founds straight short with
    | same => rfl
    | unopened _ _ _ not => exact absurd trivial not
  · obtain ⟨name, again, rfl⟩ := outputPath_eq_ok.mp made
    cases spelt.symm.trans again
    have file := file_of_generateFiles unshared spelt reported listed lengths
    have file' := file_of_generateFiles unshared' spelt reported' listed' lengths'
    -- both texts are that of the block, or in both runs nothing was written at its path
    have generated : result'.isGenerated = result.isGenerated := by
      cases repeats False False.elim <;> rfl
    rw [generated] at file'
    dsimp only at file file'
    split at file
    next yes =>
      rw [if_pos yes] at file'
      obtain ⟨text, made, found⟩ := file
      obtain ⟨text', made', found'⟩ := file'
      cases made'.symm.trans (blockText_of_same_symbols builtin same own named' made)
      rw [found, found']
    next no =>
      rw [if_neg no] at file'
      exact (file' content).trans (file content).symm

/-- A block without marks. -/
def plainSample : Block := { info := { name := "a", rawType := .single "Object" } }

/-- Another one. -/
def neighbourSample : Block := { info := { name := "b", rawType := .single "Object" } }

/-- A block of the same name as the other one, for the main process. -/
def markedSample : Block :=
  { info := { name := "b", rawType := .single "Object", processes := { main := true } } }

omit [WorkingDirectory] in
/-- What the samples are named under whatever settings leave these names. -/
theorem sameSymbols_sample (spelt : generator.baseSymbol plainSample.info = .ok "A")
    (other : generator.baseSymbol neighbourSample.info = .ok "B")
    (marked : generator.baseSymbol markedSample.info = .ok "B") :
    generator.SameSymbols [plainSample, neighbourSample] [markedSample, plainSample] := by
  intro symbol
  simp only [List.mem_cons, List.not_mem_nil, or_false, exists_eq_or_imp, exists_eq_left, spelt,
    other, marked]
  exact or_comm

end Generator

end HostBindings

namespace HostBindings.Generator

open Api (Block)

attribute [local instance] WorkingDirectory.root

theorem blocks_independent_sample :
    ∃ generator generation generation' outcome,
      Generator.ofSettings {} = .ok generator ∧
      generator.SameSymbols [plainSample, neighbourSample] [markedSample, plainSample] ∧
      generator.Unshared (Path.ofString "out") plainSample [neighbourSample] ∧
      generator.Unshared (Path.ofString "out") plainSample [markedSample] ∧
      ((generator.generateFiles ⟨.string "s.json", [plainSample, neighbourSample]⟩
        (Path.ofString "out") {}).run []).1.1 = .ok generation ∧
      ((generator.generateFiles ⟨.string "s.json", [markedSample, plainSample]⟩
        (Path.ofString "out") {}).run []).1.1 = .ok generation' ∧
      generation.report.outcomes[0]? = some outcome ∧
      generation'.report.outcomes[1]? = some outcome := by
  have evaluated : (Generator.ofSettings {}).toOption.any (fun generator =>
      generator.baseSymbol plainSample.info = .ok "A" ∧
        generator.baseSymbol neighbourSample.info = .ok "B" ∧
        generator.baseSymbol markedSample.info = .ok "B" ∧
        generator.outputPath neighbourSample (Path.ofString "out") ≠
          generator.outputPath plainSample (Path.ofString "out") ∧
        generator.outputPath markedSample (Path.ofString "out") ≠
          generator.outputPath plainSample (Path.ofString "out") ∧
        ((generator.generateFiles ⟨.string "s.json", [plainSample, neighbourSample]⟩
          (Path.ofString "out") {}).run []).1.1.isOk ∧
        ((generator.generateFiles ⟨.string "s.json", [markedSample, plainSample]⟩
          (Path.ofString "out") {}).run []).1.1.isOk) = true := by
    decide +kernel
  obtain ⟨generator, made, settled⟩ := Option.any_eq_true _ _ |>.mp evaluated
  obtain ⟨spelt, other, marked, apart, apart', ok, ok'⟩ := of_decide_eq_true settled
  obtain ⟨generation, reported⟩ := isOk_iff.mp ok
  obtain ⟨generation', reported'⟩ := isOk_iff.mp ok'
  have configured := toOption_eq_some_iff.mp made
  have same := sameSymbols_sample spelt other marked
  have unshared : generator.Unshared (Path.ofString "out") plainSample [neighbourSample] := by
    simpa [Unshared] using apart
  have unshared' : generator.Unshared (Path.ofString "out") plainSample [markedSample] := by
    simpa [Unshared] using apart'
  obtain ⟨⟨outcome, outcome', first, second, -, -, equal⟩, -⟩ :=
    blocks_independent configured (.string "s.json") plainSample [] [neighbourSample]
      [markedSample] [] same (Path.ofString "out") unshared unshared' {} [] [] generation
      generation' reported reported'
  rw [equal (by decide) (by decide) (by decide)] at second
  exact ⟨generator, generation, generation', outcome, configured, same, unshared, unshared',
    reported, reported', first, second⟩

/-- Where another block ends the run, here since the process of the settings is no text, the file of
a block is not written that is written otherwise. And where another block makes a directory before a
file is found in the way of both, the reason why the file cannot be opened is another one. -/
theorem exists_unwritten_file_and_other_reason :
    (¬ ∀ (settings : Settings) (generator : Generator),
      Generator.ofSettings settings = .ok generator →
      ∀ (source : Json) (block : Block) (before after before' after' : List Block),
      generator.SameSymbols (before ++ block :: after) (before' ++ block :: after') →
      ∀ directory, generator.Unshared directory block (before ++ after) →
      generator.Unshared directory block (before' ++ after') →
      ∀ tree : FileTree, tree.IsClosed →
        let first := ((generator.generateFiles ⟨source, before ++ block :: after⟩ directory
          tree).run []).1
        let second := ((generator.generateFiles ⟨source, before' ++ block :: after'⟩ directory
          tree).run []).1
        ∀ path, generator.outputPath block directory = .ok path → ∀ content,
          second.2.at? path.place = some (.file content) ↔
            first.2.at? path.place = some (.file content)) ∧
    ¬ ∀ (settings : Settings) (generator : Generator),
      Generator.ofSettings settings = .ok generator →
      ∀ (source : Json) (block : Block) (before after before' after' : List Block),
      generator.SameSymbols (before ++ block :: after) (before' ++ block :: after') →
      ∀ directory, generator.Unshared directory block (before ++ after) →
      generator.Unshared directory block (before' ++ after') →
      ∀ tree : FileTree, tree.IsClosed →
        let first := ((generator.generateFiles ⟨source, before ++ block :: after⟩ directory
          tree).run []).1
        let second := ((generator.generateFiles ⟨source, before' ++ block :: after'⟩ directory
          tree).run []).1
        (reportedOutcomes second.1)[before'.length]? =
          (reportedOutcomes first.1)[before.length]? := by
  constructor
  · -- a filter that is no name ends the run at a marked block, and a block behind it has no file
    intro independent
    have evaluated : (Generator.ofSettings { processFilter := .int 5 }).toOption.any
        (fun generator =>
          generator.baseSymbol plainSample.info = .ok "A" ∧
          generator.baseSymbol neighbourSample.info = .ok "B" ∧
          generator.baseSymbol markedSample.info = .ok "B" ∧
          generator.outputPath neighbourSample (Path.ofString "out") ≠
            generator.outputPath plainSample (Path.ofString "out") ∧
          generator.outputPath markedSample (Path.ofString "out") ≠
            generator.outputPath plainSample (Path.ofString "out") ∧
          generator.outputPath plainSample (Path.ofString "out") =
            .ok (Path.ofString "out/a/a.go") ∧
          ((generator.generateFiles ⟨.string "s.json", [plainSample, neighbourSample]⟩
            (Path.ofString "out") {}).run []).1.2.at? (Path.ofString "out/a/a.go").place ≠ none ∧
          ((generator.generateFiles ⟨.string "s.json", [plainSample, neighbourSample]⟩
            (Path.ofString "out") {}).run []).1.2.at? (Path.ofString "out/a/a.go").place ≠
              some .directory ∧
          ((generator.generateFiles ⟨.string "s.json", [markedSample, plainSample]⟩
            (Path.ofString "out") {}).run []).1.2.at? (Path.ofString "out/a/a.go").place =
              none) = true := by
      decide +kernel
    obtain ⟨generator, configured, settled⟩ := Option.any_eq_true _ _ |>.mp evaluated
    obtain ⟨spelt, other, marked, apart, apart', made, written, file, unwritten⟩ :=
      of_decide_eq_true settled
    have same := independent _ generator (toOption_eq_some_iff.mp configured) (.string "s.json")
      plainSample [] [neighbourSample] [markedSample] [] (sameSymbols_sample spelt other marked)
      (Path.ofString "out") (by simpa [Unshared] using apart) (by simpa [Unshared] using apart') {}
      (by decide) _ made
    obtain ⟨node, found⟩ := Option.ne_none_iff_exists'.mp written
    cases node with
    | directory => exact file found
    | file content => exact absurd (unwritten.symm.trans ((same content).mpr found)) (by simp)
  · -- what is made on the way to a refusal gives the next refusal another reason
    intro independent
    have evaluated : (Generator.ofSettings {}).toOption.any (fun generator =>
        let tree : FileTree := ⟨[(["f"], .file "text")]⟩
        let directory := Path.ofString "n/../f"
        generator.baseSymbol plainSample.info = .ok "A" ∧
        generator.baseSymbol neighbourSample.info = .ok "B" ∧
        generator.baseSymbol markedSample.info = .ok "B" ∧
        generator.outputPath neighbourSample directory ≠
          generator.outputPath plainSample directory ∧
        generator.outputPath markedSample directory ≠ generator.outputPath plainSample directory ∧
        (reportedOutcomes ((generator.generateFiles
          ⟨.string "s.json", [markedSample, plainSample]⟩ directory tree).run []).1.1)[1]? ≠
        (reportedOutcomes ((generator.generateFiles
          ⟨.string "s.json", [plainSample, neighbourSample]⟩ directory tree).run []).1.1)[0]?) =
        true := by
      decide +kernel
    obtain ⟨generator, configured, settled⟩ := Option.any_eq_true _ _ |>.mp evaluated
    obtain ⟨spelt, other, marked, apart, apart', differ⟩ := of_decide_eq_true settled
    exact differ (independent _ generator (toOption_eq_some_iff.mp configured) (.string "s.json")
      plainSample [] [neighbourSample] [markedSample] [] (sameSymbols_sample spelt other marked)
      (Path.ofString "n/../f") (by simpa [Unshared] using apart)
      (by simpa [Unshared] using apart') ⟨[(["f"], .file "text")]⟩ (by decide))

end HostBindings.Generator
