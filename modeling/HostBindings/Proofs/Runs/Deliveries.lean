import HostBindings.Proofs.Files.Again
import HostBindings.Proofs.Runs.Directories

/-!
# Files of blocks, exactly

What becomes of the file of a block leaves all other files as they are, and no temporary file. When
the block is generated once more after that, its file is opened, written or refused as it was at
first.

## Main definitions

* `Generator.deliver` — what a block comes to where its pass starts
* `Generator.Stores` — the ways in which that ends where blocks go to files
* `Generator.Repeats` — results of a block that is generated twice

## Main results

* `Generator.runBlock_of_prepared`, `Generator.stores_deliver` — one block
* `Generator.Stores.changes`, `Generator.Stores.claims` — what a block changes
* `Generator.Stores.again` — a block that is generated once more
-/

namespace HostBindings

open Api (Block Schema)
open FileTree (Changes)

namespace Generator

variable {σ η : Type} {generator : Generator} {block : Block} {start : Pass}

/-- What a block comes to where its pass starts: its result, its warnings, and the destination. -/
def deliver (generator : Generator) (destination : Destination σ η) (block : Block) (start : Pass)
    (before : σ) : Except Interruption BlockResult × List String × σ :=
  match destination.openFor block start.scope.symbol before with
  | (.error (.path fault), after) => (.error (.path fault), [], after)
  | (.error (.sink error), after) => (.ok (.failed (.sink error)), [], after)
  | (.ok handle, opened) =>
    match (generator.emission block).outcome start with
    | (.error fault, pass) =>
      (.ok (.failed (.pass fault)), pass.warnings, destination.release handle opened)
    | (.ok nested, pass) =>
      match destination.commit handle pass.sink opened with
      | (.error error, after) => (.ok (.failed (.sink error)), pass.warnings, after)
      | (.ok (), after) => (.ok (.generated nested), pass.warnings, after)

/-- The outcomes that a block adds to those of a run. -/
def outcomesOf (block : Block) : Except Interruption BlockResult → List Outcome
  | .ok result => [⟨block.name, result⟩]
  | .error _ => []

/-- What a block does to a run is what it comes to. -/
theorem runBlock_of_prepared (destination : Destination σ η) {state : RunState σ}
    (prepared : generator.prepare block state.reserved = .ok (some start)) :
    let ran := (generator.runBlock destination false block).outcome state
    let came := generator.deliver destination block start state.destination
    ran.1 = came.1.map (fun _ => ()) ∧ ran.2.destination = came.2.2 ∧
      ran.2.reserved = state.reserved ∧
      ran.2.outcomes = state.outcomes ++ outcomesOf block came.1 ∧
      ran.2.warnings = state.warnings ++ came.2.1 := by
  rcases opening : destination.openFor block start.scope.symbol state.destination with
    ⟨⟨error | fault⟩ | handle, opened⟩
  all_goals
    simp only [outcome_runBlock, prepared, opening, deliver, RunState.begin]
  · simp [outcomesOf, Except.map, Running.outcome_bind]
  · simp [outcomesOf, Except.map]
  rw [outcome_runPass]
  rcases emitted : (generator.emission block).outcome start with ⟨fault | nested, pass⟩
  · simp [outcomesOf, Except.map]
  dsimp only
  rw [outcome_commitPass]
  rcases committed : destination.commit handle pass.sink opened with ⟨error | _, after⟩
  all_goals
    simp [outcomesOf, Except.map]

/-- The result of a block whose file is not opened. -/
def unopenedResult : OpenFault → Except Interruption BlockResult
  | .path fault => .error (.path fault)
  | .sink error => .ok (.failed (.sink error))

variable [WorkingDirectory] {directory : Path} {source : Json}
  {before after second : OutputDirectory}
  {result : Except Interruption BlockResult} {warnings : List String}

/-- The header of the file of a block. -/
def blockHeader (generator : Generator) (source : Json) (block : Block) (symbol : String)
    (imports : List Json) : Except CommitFault String :=
  (generator.fileHeader (.string (Naming.packageOfSymbol symbol)) imports source
    (some block.info)).mapError .header

/-- The ways in which a block ends whose text goes to a file: the path belongs to another block, the
file is not opened, the pass fails, or the file is refused or takes the text. -/
inductive Stores (generator : Generator) (directory : Path) (source : Json) (block : Block)
    (start : Pass) (before : OutputDirectory) :
    Except Interruption BlockResult → List String → OutputDirectory → Prop where
  /-- The path belongs to another block. -/
  | claimed {first : String} :
      before.claimed.lookup (blockPath directory start.scope.symbol) = some first →
      Stores generator directory source block start before (.ok (.failed (.sink
        (.claimed (blockPath directory start.scope.symbol).text first)))) [] before
  /-- The file is not opened. -/
  | unopened {fault : OpenFault} {tree : FileTree} :
      before.claimed.lookup (blockPath directory start.scope.symbol) = none →
      OutputFile.create before.tree (blockPath directory start.scope.symbol) =
        (.error fault, tree) →
      Stores generator directory source block start before (unopenedResult fault) []
        { before with tree }
  /-- The pass fails. -/
  | released {output : OutputFile} {opened : FileTree} {fault : PassFault} {pass : Pass} :
      before.claimed.lookup (blockPath directory start.scope.symbol) = none →
      OutputFile.create before.tree (blockPath directory start.scope.symbol) =
        (.ok output, opened) →
      (generator.emission block).outcome start = (.error fault, pass) →
      Stores generator directory source block start before (.ok (.failed (.pass fault)))
        pass.warnings ⟨output.release opened,
          before.claimed ++ [(blockPath directory start.scope.symbol, block.name)]⟩
  /-- The file is refused. -/
  | refused {output : OutputFile} {opened tree : FileTree} {nested : Nat} {pass : Pass}
      {error : SinkError} :
      before.claimed.lookup (blockPath directory start.scope.symbol) = none →
      OutputFile.create before.tree (blockPath directory start.scope.symbol) =
        (.ok output, opened) →
      (generator.emission block).outcome start = (.ok nested, pass) →
      output.commit (generator.blockHeader source block start.scope.symbol pass.sink.imports)
        pass.sink opened = (.error error, tree) →
      Stores generator directory source block start before (.ok (.failed (.sink error)))
        pass.warnings
        ⟨tree, before.claimed ++ [(blockPath directory start.scope.symbol, block.name)]⟩
  /-- The file takes the text. -/
  | taken {output : OutputFile} {opened tree : FileTree} {nested : Nat} {pass : Pass} :
      before.claimed.lookup (blockPath directory start.scope.symbol) = none →
      OutputFile.create before.tree (blockPath directory start.scope.symbol) =
        (.ok output, opened) →
      (generator.emission block).outcome start = (.ok nested, pass) →
      output.commit (generator.blockHeader source block start.scope.symbol pass.sink.imports)
        pass.sink opened = (.ok (), tree) →
      Stores generator directory source block start before (.ok (.generated nested))
        pass.warnings
        ⟨tree, before.claimed ++ [(blockPath directory start.scope.symbol, block.name)]⟩

/-- A block whose text goes to a file ends in one of the ways. -/
theorem stores_deliver (generator : Generator) (directory : Path) (source : Json) (block : Block)
    (start : Pass) (before : OutputDirectory) :
    generator.Stores directory source block start before
      (generator.deliver (.toDirectory generator directory source) block start before).1
      (generator.deliver (.toDirectory generator directory source) block start before).2.1
      (generator.deliver (.toDirectory generator directory source) block start before).2.2 := by
  -- the ways branch off in the order of the steps: claim, opening, pass and commit
  simp only [deliver, Destination.toDirectory]
  cases claimed : before.claimed.lookup (blockPath directory start.scope.symbol) with
  | some first => exact .claimed claimed
  | none =>
    rcases created : OutputFile.create before.tree (blockPath directory start.scope.symbol) with
      ⟨⟨error | fault⟩ | output, opened⟩
    · exact .unopened claimed created
    · exact .unopened claimed created
    · dsimp only
      rcases emitted : (generator.emission block).outcome start with ⟨fault | nested, pass⟩
      · exact .released claimed created emitted
      · dsimp only
        rcases committed : output.commit (generator.blockHeader source block start.scope.symbol
          pass.sink.imports) pass.sink opened with ⟨error | _, tree⟩
        · have refused := committed
          simp only [blockHeader] at refused
          rw [refused]
          exact .refused claimed created emitted committed
        · have taken := committed
          simp only [blockHeader] at taken
          rw [taken]
          exact .taken claimed created emitted committed

/-- Each of the ways settles what becomes of the block. -/
theorem Stores.deliver_eq
    (stores : generator.Stores directory source block start before result warnings after) :
    generator.deliver (.toDirectory generator directory source) block start before =
      (result, warnings, after) := by
  simp only [deliver, Destination.toDirectory]
  -- each way holds the equations of the steps up to the one that ends it
  cases stores with
  | claimed claimed => rw [claimed]
  | @unopened fault tree claimed created =>
    rw [claimed]
    dsimp only
    rw [created]
    cases fault <;> rfl
  | released claimed created emitted =>
    rw [claimed]
    dsimp only
    rw [created]
    dsimp only
    rw [emitted]
  | refused claimed created emitted committed | taken claimed created emitted committed =>
    unfold blockHeader at committed
    rw [claimed]
    dsimp only
    rw [created]
    dsimp only
    rw [emitted]
    dsimp only
    rw [committed]

/-- A block whose file is not opened. -/
theorem fst_deliver_of_unopened {fault : OpenFault} {tree : FileTree}
    (unclaimed : before.claimed.lookup (blockPath directory start.scope.symbol) = none)
    (failed : OutputFile.create before.tree (blockPath directory start.scope.symbol) =
      (.error fault, tree)) :
    (generator.deliver (.toDirectory generator directory source) block start before).1 =
      unopenedResult fault := by
  rw [Stores.deliver_eq (.unopened unclaimed failed)]

/-! ### What a block changes -/

/-- The place of the file of a block is in that of the directory. -/
theorem place_blockPath (directory : Path) (symbol : String) :
    (blockPath directory symbol).place = directory.place ++ blockNames symbol := by
  rw [blockPath_eq, Path.place_beneath (straight_blockNames symbol)]

/-- Files of blocks at one place have one path. -/
theorem blockPath_inj {symbol other : String}
    (same : (blockPath directory symbol).place = (blockPath directory other).place) :
    blockPath directory symbol = blockPath directory other := by
  rw [place_blockPath, place_blockPath] at same
  rw [blockPath_eq, blockPath_eq, List.append_cancel_left same]

/-- The file of a block is not at the place of its temporary file. -/
theorem place_ne_temporary {symbol : String} {output : OutputFile}
    (path : output.path = blockPath directory symbol) (beside : output.IsBeside) :
    (blockPath directory symbol).place ≠ output.temporary := by
  obtain ⟨parent, number, temporary⟩ := beside
  have name : output.path.name = Naming.packageOfSymbol symbol ++ fileExtension := by
    simp [path, blockPath, Path.child, Path.name]
  rw [temporary, name, place_blockPath]
  intro same
  have lasts : Naming.packageOfSymbol symbol ++ fileExtension =
      FileTree.temporaryName (Naming.packageOfSymbol symbol ++ fileExtension) number := by
    simpa [blockNames, Place.below] using congrArg List.getLast? same
  exact FileTree.temporaryName_ne number (by omega) lasts.symm

/-- A block whose file is opened: its pass settles what becomes of it, and then whether there is a
whole text and what is in the way of the file. -/
theorem deliver_of_created {output : OutputFile} {opened : FileTree}
    (unclaimed : before.claimed.lookup (blockPath directory start.scope.symbol) = none)
    (created : OutputFile.create before.tree (blockPath directory start.scope.symbol) =
      (.ok output, opened)) :
    let came := generator.deliver (.toDirectory generator directory source) block start before
    let emitted := (generator.emission block).outcome start
    came.2.1 = emitted.2.warnings ∧
      came.1 = .ok (match emitted.1 with
        | .error fault => .failed (.pass fault)
        | .ok nested =>
          match OutputFile.wholeText (generator.blockHeader source block start.scope.symbol
              emitted.2.sink.imports) emitted.2.sink,
            opened.obstacle? (blockPath directory start.scope.symbol) with
          | .error fault, _ => .failed (.sink (.uncommitted emitted.2.sink.blockName fault))
          | .ok _, some fault =>
            .failed (.sink (.uncommitted emitted.2.sink.blockName (.file fault)))
          | .ok _, none => .generated nested) := by
  intro came emitted
  obtain ⟨below, opens⟩ := OutputFile.opens_create created
  -- whether the text is taken depends on its header and on what is in the way of the file
  have taken (header : Except CommitFault String) (sink : Sink) :
      (output.commit header sink opened).1 = _ :=
    opens.fst_commit (place_ne_temporary opens.destination opens.beside)
  rcases ran : (generator.emission block).outcome start with ⟨fault | nested, pass⟩
  · have ended : emitted = _ := ran
    have same : came = _ := Stores.deliver_eq (.released unclaimed created ran)
    rw [same, ended]
    exact ⟨rfl, rfl⟩
  · have ended : emitted = _ := ran
    have last := taken (generator.blockHeader source block start.scope.symbol pass.sink.imports)
      pass.sink
    rcases committed : output.commit (generator.blockHeader source block start.scope.symbol
      pass.sink.imports) pass.sink opened with ⟨error | _, tree⟩
    all_goals rw [committed] at last
    · have same : came = _ := Stores.deliver_eq (.refused unclaimed created ran committed)
      rw [same, ended]
      refine ⟨rfl, ?_⟩
      dsimp only
      generalize OutputFile.wholeText (generator.blockHeader source block start.scope.symbol
          pass.sink.imports) pass.sink = whole,
        opened.obstacle? (blockPath directory start.scope.symbol) = obstacle at last ⊢
      cases whole with
      | error fault =>
        cases last
        rfl
      | ok text =>
        cases obstacle <;> cases last
        rfl
    · have same : came = _ := Stores.deliver_eq (.taken unclaimed created ran committed)
      rw [same, ended]
      refine ⟨rfl, ?_⟩
      dsimp only
      generalize OutputFile.wholeText (generator.blockHeader source block start.scope.symbol
          pass.sink.imports) pass.sink = whole,
        opened.obstacle? (blockPath directory start.scope.symbol) = obstacle at last ⊢
      cases whole with
      | error fault => cases last
      | ok text =>
        cases obstacle <;> cases last
        rfl

/-- Only the file of a block that is generated changes. -/
theorem Stores.changes
    (stores : generator.Stores directory source block start before result warnings after) :
    Changes (fun place => (∃ nested, result = .ok (.generated nested)) ∧
      before.claimed.lookup (blockPath directory start.scope.symbol) = none ∧
      place = (blockPath directory start.scope.symbol).place) before.tree after.tree := by
  cases stores with
  | claimed => exact .refl _ _
  | unopened _ created => exact (OutputFile.makes_create created).changes _
  | released _ created =>
    obtain ⟨below, opens⟩ := OutputFile.opens_create created
    exact (opens.makes.changes _).trans
      (.of_same (opens.at?_dropped fun place => OutputFile.at?_release opens.beside _))
  | refused _ created _ committed =>
    obtain ⟨below, opens⟩ := OutputFile.opens_create created
    exact (opens.makes.changes _).trans
      (.of_same (opens.at?_dropped fun place =>
        OutputFile.at?_commit_of_error opens.beside committed))
  | taken unclaimed created _ committed =>
    obtain ⟨below, opens⟩ := OutputFile.opens_create created
    have elsewhere := place_ne_temporary opens.destination opens.beside
    exact (opens.makes.changes _).trans
      ((opens.changes_committed elsewhere committed).mono fun _ here =>
        ⟨⟨_, rfl⟩, unclaimed, here⟩)

/-- Paths that belong to a block go on doing so, and the path of a generated block belongs to it. -/
theorem Stores.claims
    (stores : generator.Stores directory source block start before result warnings after) :
    (∀ path, (before.claimed.lookup path).isSome → (after.claimed.lookup path).isSome) ∧
      ∀ nested, result = .ok (.generated nested) →
        before.claimed.lookup (blockPath directory start.scope.symbol) = none ∧
          (after.claimed.lookup (blockPath directory start.scope.symbol)).isSome := by
  cases stores with
  | claimed => exact ⟨fun _ listed => listed, fun _ same => by cases same⟩
  | @unopened fault =>
    exact ⟨fun _ listed => listed, fun _ same => by cases fault <;> cases same⟩
  | released | refused =>
    exact ⟨fun _ listed => isSome_lookup_append _ listed, fun _ same => by cases same⟩
  | taken unclaimed =>
    refine ⟨fun _ listed => isSome_lookup_append _ listed, fun _ _ => ⟨unclaimed, ?_⟩⟩
    rw [List.lookup_append, unclaimed]
    simp

/-! ### A block once more -/

/-- Results of a block that is generated twice: the same, or the file cannot be opened both times,
for reasons that may not be the same unless that is ruled out. -/
inductive Repeats (strict : Prop) :
    Except Interruption BlockResult → Except Interruption BlockResult → Prop where
  /-- The results are the same. -/
  | same (result : Except Interruption BlockResult) : Repeats strict result result
  /-- The reasons are not the same. -/
  | unopened (path : String) (first second : FileFault) : ¬ strict →
      Repeats strict (.ok (.failed (.sink (.unopened path first))))
        (.ok (.failed (.sink (.unopened path second))))

omit [WorkingDirectory] in
theorem repeats_unopenedResult {strict : Prop} {path : Path} {cause again : FileFault}
    (kind : again = cause ∨ again.isRefusal = true ∧ cause.isRefusal = true)
    (same : strict → again = cause) :
    Repeats strict (unopenedResult (OutputFile.create.refusal path cause))
      (unopenedResult (OutputFile.create.refusal path again)) := by
  by_cases equal : again = cause
  · rw [equal]
    exact .same _
  · obtain ⟨second, first⟩ := kind.resolve_left equal
    simp only [OutputFile.create.refusal, second, first, if_true, unopenedResult]
    exact .unopened _ _ _ fun strict => equal (same strict)

/-- A block that is generated once more, in a tree that has gone on, ends as it did, and changes
nothing if its file is as it was left. -/
theorem Stores.again {touched : Place → Prop} {strict : Prop}
    (stores : generator.Stores directory source block start before result warnings after)
    (changes : Changes touched after.tree second.tree)
    (kept : (∃ nested, result = .ok (.generated nested)) →
      ¬ touched (blockPath directory start.scope.symbol).place)
    (claimed : second.claimed = before.claimed)
    (founds : strict → before.tree.Founds directory) :
    ∃ repeated last,
      generator.Stores directory source block start second repeated warnings last ∧
      Repeats strict result repeated ∧
      (∀ place, last.tree.at? place = second.tree.at? place) ∧ last.claimed = after.claimed := by
  cases stores with
  | claimed owned =>
    exact ⟨_, second, .claimed (claimed ▸ owned), .same _, fun _ => rfl, claimed⟩
  | unopened unclaimed failed =>
    obtain ⟨cause, again, rfl, kind, same, always⟩ := OutputFile.create_again_of_error failed
    refine ⟨_, { second with tree := second.tree },
      .unopened (claimed ▸ unclaimed) (always changes), ?_, fun _ => rfl, claimed⟩
    exact repeats_unopenedResult kind fun strict =>
      same directory _ (Path.parent_child _ _) (founds strict)
  | @released output opened _ _ unclaimed created emitted =>
    obtain ⟨below, opens⟩ := OutputFile.opens_create created
    have same : Changes touched below (output.release opened) :=
      .of_same (opens.at?_dropped fun place => OutputFile.at?_release opens.beside _)
    obtain ⟨again, last, opened, reopens⟩ := OutputFile.create_again_of_ok created
      (changes.isDirectory (same.isDirectory opens.isDirectory_below))
    refine ⟨_, _, .released (claimed ▸ unclaimed) opened emitted, .same _, ?_, by rw [claimed]⟩
    exact reopens.at?_dropped fun place => OutputFile.at?_release reopens.beside _
  | @refused output opened tree _ pass error unclaimed created emitted refused =>
    obtain ⟨below, opens⟩ := OutputFile.opens_create created
    have elsewhere := place_ne_temporary opens.destination opens.beside
    have same : Changes touched below tree := .of_same (opens.at?_dropped fun place =>
      OutputFile.at?_commit_of_error opens.beside refused)
    obtain ⟨again, last, opened, reopens⟩ := OutputFile.create_again_of_ok created
      (changes.isDirectory (same.isDirectory opens.isDirectory_below))
    obtain ⟨final, committed, still⟩ := opens.refused_again reopens elsewhere
      (place_ne_temporary reopens.destination reopens.beside) refused changes
    exact ⟨_, _, .refused (claimed ▸ unclaimed) opened emitted committed, .same _, still,
      by rw [claimed]⟩
  | @taken output opened tree nested pass unclaimed created emitted taken =>
    obtain ⟨below, opens⟩ := OutputFile.opens_create created
    have elsewhere := place_ne_temporary opens.destination opens.beside
    have written := opens.changes_committed elsewhere taken
    obtain ⟨again, last, opened, reopens⟩ := OutputFile.create_again_of_ok created
      (changes.isDirectory (written.isDirectory opens.isDirectory_below))
    -- the text that was taken is in the place of the file still
    obtain ⟨final, committed, still⟩ := opens.taken_again reopens elsewhere
      (place_ne_temporary reopens.destination reopens.beside) taken
      fun _ => (changes.file_iff (kept ⟨nested, rfl⟩) _).mpr
    exact ⟨_, _, .taken (claimed ▸ unclaimed) opened emitted committed, .same _, still,
      by rw [claimed]⟩

/-- Where the directory can be made if it is missing, it can be after a block too. -/
theorem Stores.founds
    (stores : generator.Stores directory source block start before result warnings after)
    (founds : before.tree.Founds directory) : after.tree.Founds directory := by
  have made := founds.makeDirectories (Naming.packageOfSymbol start.scope.symbol)
  -- once a file was opened, its directory is there, and no change takes that away
  have opened {output : OutputFile} {below opened : FileTree}
      (opens : output.Opens (blockPath directory start.scope.symbol) before.tree below opened)
      (touched : Place → Prop) (changes : Changes touched below after.tree) :
      after.tree.Founds directory := by
    have there := opens.isDirectory_below
    rw [blockPath, Path.parent_child] at there
    exact FileTree.founds_of_isDirectory
      (changes.isDirectory (FileTree.isDirectory_of_child there))
  cases stores with
  | claimed => exact founds
  | unopened _ failed =>
    have below := OutputFile.snd_create_of_error failed
    rw [blockPath, Path.parent_child] at below
    rw [← below] at made
    rcases made with same | there
    · exact same ▸ founds
    · exact FileTree.founds_of_isDirectory there
  | released _ created =>
    obtain ⟨below, opens⟩ := OutputFile.opens_create created
    exact opened opens (fun _ => False)
      (.of_same (opens.at?_dropped fun place => OutputFile.at?_release opens.beside _))
  | refused _ created _ committed =>
    obtain ⟨below, opens⟩ := OutputFile.opens_create created
    exact opened opens (fun _ => False) (.of_same (opens.at?_dropped fun place =>
      OutputFile.at?_commit_of_error opens.beside committed))
  | taken _ created _ committed =>
    obtain ⟨below, opens⟩ := OutputFile.opens_create created
    exact opened opens _ (opens.changes_committed
      (place_ne_temporary opens.destination opens.beside) committed)

/-! ### A block, whether or not its pass starts -/

/-- What a block comes to: its result, its warnings, and the destination. -/
def comesTo (generator : Generator) (destination : Destination σ η) (block : Block)
    (reserved : List String) (before : σ) : Except Interruption BlockResult × List String × σ :=
  match generator.prepare block reserved with
  | .error fault => (.error (.setting fault), [], before)
  | .ok none => (.ok (.skipped generator.settings.processFilter.text), [], before)
  | .ok (some start) => generator.deliver destination block start before

omit [WorkingDirectory] in
/-- What a block does to a run is what it comes to. -/
theorem runBlock_comesTo (generator : Generator) (destination : Destination σ η) (block : Block)
    (state : RunState σ) :
    let ran := (generator.runBlock destination false block).outcome state
    let came := generator.comesTo destination block state.reserved state.destination
    ran.1 = came.1.map (fun _ => ()) ∧ ran.2.destination = came.2.2 ∧
      ran.2.reserved = state.reserved ∧
      ran.2.outcomes = state.outcomes ++ outcomesOf block came.1 ∧
      ran.2.warnings = state.warnings ++ came.2.1 := by
  cases prepared : generator.prepare block state.reserved with
  | error fault =>
    simp [comesTo, prepared, outcome_runBlock, RunState.begin, outcomesOf, Except.map]
  | ok start? =>
    cases start? with
    | none =>
      simp [comesTo, prepared, outcome_runBlock, passOver, RunState.begin, outcomesOf, Except.map,
        Running.outcome_bind]
    | some start =>
      simp only [comesTo, prepared]
      exact runBlock_of_prepared destination prepared

end Generator

end HostBindings
