import HostBindings.Proofs.Files.Crossings
import HostBindings.Proofs.Reserved.Orders
import HostBindings.Proofs.Runs.Prefixes
import HostBindings.Proofs.Runs.Repeats

/-!
# A block among others

Where every block goes to a file of its own, a block depends on the others in two ways: their
symbols are taken when its pass starts, and its file is opened in the tree that they leave. The
order of the symbols does not matter. And what the others leave is in the way of the file exactly
if it was before the run: directories, and files at places of their own.

## Main definitions

* `Generator.Aside` — what other blocks have left of a tree and of the paths
* `Generator.Behind` — a run that has come past other blocks

## Main results

* `Generator.Aside.comesTo`, `Generator.Behind.blocks` — one other block, and all of them
* `Generator.Aside.deliver_repeats`, `Generator.Aside.comesTo_repeats` — a block behind other
  blocks, in two runs
-/

namespace HostBindings

open Api (Block Schema)
open FileTree (Changes)

namespace Generator

variable [WorkingDirectory] {generator : Generator} {directory : Path} {source : Json}
  {block : Block} {symbol : String} {tree : FileTree} {state next : OutputDirectory} {place : Place}

/-! ### What other blocks leave -/

/-- What blocks whose files are not that of a certain symbol have left of a tree. -/
structure Aside (directory : Path) (symbol : String) (tree : FileTree) (state : OutputDirectory) :
    Prop where
  /-- Files are written at their places only. -/
  changes : Changes (fun place => ∃ other, blockPath directory other ≠ blockPath directory symbol ∧
    place = (blockPath directory other).place) tree state.tree
  /-- Directories are made for their paths. -/
  made : ∀ place, state.tree.at? place = some .directory → tree.at? place = some .directory ∨
    ∃ other, (blockPath directory other).parent.Crosses place
  /-- No file is written before the directory is there. -/
  founded : state.tree.isDirectory directory = true ∨ Changes (fun _ => False) tree state.tree
  /-- The path of the symbol belongs to none of them. -/
  unclaimed : state.claimed.lookup (blockPath directory symbol) = none

theorem Aside.start (directory : Path) (symbol : String) (tree : FileTree) :
    Aside directory symbol tree { tree } :=
  ⟨.refl _ _, fun _ here => .inl here, .inr (.refl _ _), rfl⟩

omit [WorkingDirectory] in
theorem parent_blockPath (directory : Path) (symbol : String) :
    (blockPath directory symbol).parent = directory.child (Naming.packageOfSymbol symbol) :=
  Path.parent_child _ _

/-- Directories are made for the path of a block alone. -/
theorem Stores.made {start : Pass} {result : Except Interruption BlockResult}
    {warnings : List String}
    (stores : generator.Stores directory source block start state result warnings next)
    (here : next.tree.at? place = some .directory) :
    state.tree.at? place = some .directory ∨
      (blockPath directory start.scope.symbol).parent.Crosses place := by
  -- after an opening, only the file itself and its temporary one are touched
  have from_makes {below : FileTree}
      (makes : FileTree.Makes (blockPath directory start.scope.symbol).parent state.tree below)
      (there : below.at? place = some .directory) :
      state.tree.at? place = some .directory ∨
        (blockPath directory start.scope.symbol).parent.Crosses place := by
    rcases makes place with same | ⟨-, -, crosses⟩
    · exact .inl (same ▸ there)
    · exact .inr crosses
  cases stores with
  | claimed => exact .inl here
  | unopened _ failed => exact from_makes (OutputFile.makes_create failed) here
  | released _ created =>
    obtain ⟨below, opens⟩ := OutputFile.opens_create created
    rw [opens.at?_dropped fun place => OutputFile.at?_release opens.beside _] at here
    exact from_makes opens.makes here
  | refused _ created _ committed =>
    obtain ⟨below, opens⟩ := OutputFile.opens_create created
    rw [opens.at?_dropped fun place =>
      OutputFile.at?_commit_of_error opens.beside committed] at here
    exact from_makes opens.makes here
  | taken _ created _ committed =>
    obtain ⟨below, opens⟩ := OutputFile.opens_create created
    obtain ⟨_, -, -, there⟩ := opens.at?_committed
      (place_ne_temporary opens.destination opens.beside) committed
    rw [there] at here
    split at here
    · cases here
    · exact from_makes opens.makes here

/-- A file is written only where the directory is. -/
theorem Stores.founded {start : Pass} {result : Except Interruption BlockResult}
    {warnings : List String}
    (stores : generator.Stores directory source block start state result warnings next) :
    next.tree.isDirectory directory = true ∨ Changes (fun _ => False) state.tree next.tree := by
  by_cases generated : ∃ nested, result = .ok (.generated nested)
  · left
    obtain ⟨nested, same⟩ := generated
    cases stores with
    | @unopened fault => cases fault <;> cases same
    | claimed | released | refused => cases same
    | taken _ created _ committed =>
      obtain ⟨below, opens⟩ := OutputFile.opens_create created
      have there := opens.isDirectory_below
      rw [parent_blockPath] at there
      exact (opens.changes_committed (place_ne_temporary opens.destination opens.beside)
        committed).isDirectory (FileTree.isDirectory_of_child there)
  · exact .inr (stores.changes.mono fun _ here => generated here.1)

/-- Another block leaves the path of the symbol to its block. -/
theorem Stores.unclaimed {start : Pass} {result : Except Interruption BlockResult}
    {warnings : List String}
    (stores : generator.Stores directory source block start state result warnings next)
    (other : blockPath directory start.scope.symbol ≠ blockPath directory symbol)
    (unclaimed : state.claimed.lookup (blockPath directory symbol) = none) :
    next.claimed.lookup (blockPath directory symbol) = none := by
  have more : (state.claimed ++ [(blockPath directory start.scope.symbol, block.name)]).lookup
      (blockPath directory symbol) = none := by
    rw [List.lookup_append, unclaimed, Option.none_or]
    exact lookup_eq_none_of_not_mem (by simpa using other.symm)
  cases stores with
  | claimed | unopened => exact unclaimed
  | released | refused | taken => exact more

/-- One other block. -/
theorem Aside.comesTo (aside : Aside directory symbol tree state) (generator : Generator)
    (source : Json) (block : Block) (reserved : List String)
    (apart : ∀ other, generator.baseSymbol block.info = .ok other →
      blockPath directory other ≠ blockPath directory symbol) :
    Aside directory symbol tree (generator.comesTo (.toDirectory generator directory source) block
      reserved state).2.2 := by
  rcases comesTo_cases generator directory source block reserved with
    ⟨_, -, same⟩ | ⟨start, spelt, delivers⟩
  · rwa [same]
  · rw [delivers]
    have stores := generator.stores_deliver directory source block start state
    have other := apart _ spelt
    generalize generator.deliver (.toDirectory generator directory source) block start state =
      came at stores ⊢
    refine ⟨aside.changes.trans (stores.changes.mono ?_), fun place here => ?_, ?_,
      stores.unclaimed other aside.unclaimed⟩
    · rintro place ⟨-, -, rfl⟩
      exact ⟨_, other, rfl⟩
    · rcases stores.made here with before | crosses
      · exact aside.made place before
      · exact .inr ⟨_, crosses⟩
    · rcases stores.founded with there | nothing
      · exact .inl there
      · exact aside.founded.imp nothing.isDirectory fun before => before.trans nothing

/-! ### The file of the block -/

/-- The directory of a block is one name below the directory of all. -/
theorem place_parent_blockPath (directory : Path) (symbol : String) :
    (blockPath directory symbol).parent.place =
      directory.place ++ [Naming.packageOfSymbol symbol] := by
  have straight : ".." ∉ [Naming.packageOfSymbol symbol] := fun up =>
    straight_blockNames symbol (List.mem_cons.mpr (.inl (List.mem_singleton.mp up)))
  rw [parent_blockPath, ← Path.place_beneath straight]
  rfl

/-- The file of no block is where the directory of a block is. -/
theorem place_parent_ne (directory : Path) (symbol other : String) :
    (blockPath directory symbol).parent.place ≠ (blockPath directory other).place := by
  rw [place_parent_blockPath, place_blockPath]
  intro same
  have lengths := congrArg List.length (List.append_cancel_left same)
  simp [blockNames] at lengths

/-- Files are at the places that the path of the directory of the block crosses exactly if they were
there before the other blocks. -/
theorem Aside.files (aside : Aside directory symbol tree state)
    (crosses : (blockPath directory symbol).parent.Crosses place) :
    (∃ content, state.tree.at? place = some (.file content)) ↔
      ∃ content, tree.at? place = some (.file content) := by
  constructor
  · rintro ⟨content, file⟩
    by_cases touched : ∃ other, blockPath directory other ≠ blockPath directory symbol ∧
        place = (blockPath directory other).place
    · obtain ⟨other, -, rfl⟩ := touched
      rcases aside.founded with there | nothing
      · -- the file is in the directory, so it is not on the way to it
        rw [parent_blockPath, Path.crosses_child] at crosses
        rcases crosses with above | own
        · rw [(FileTree.crosses_of_isDirectory there).2 _ above] at file
          cases file
        · rw [← parent_blockPath] at own
          exact absurd own.symm (place_parent_ne directory symbol other)
      · exact ⟨content, nothing.comes not_false file⟩
    · exact ⟨content, aside.changes.comes touched file⟩
  · rintro ⟨content, file⟩
    obtain ⟨new, there, -⟩ := aside.changes.file file
    exact ⟨new, there⟩

/-- Whether a directory is in the place of the file, once the directory of the file is made. -/
theorem Aside.directory_iff (aside : Aside directory symbol tree state) {below opened : FileTree}
    {output : OutputFile}
    (opens : output.Opens (blockPath directory symbol) state.tree below opened) :
    below.at? (blockPath directory symbol).place = some .directory ↔
      (blockPath directory symbol).parent.Crosses (blockPath directory symbol).place ∨
        tree.at? (blockPath directory symbol).place = some .directory := by
  constructor
  · intro here
    rcases opens.makes (blockPath directory symbol).place with same | ⟨-, -, crosses⟩
    · rw [same] at here
      rcases aside.made _ here with before | ⟨other, crosses⟩
      · exact .inr before
      · left
        rw [parent_blockPath, Path.crosses_child] at crosses ⊢
        rcases crosses with above | own
        · exact .inl above
        · rw [← parent_blockPath] at own
          exact absurd own.symm (place_parent_ne directory other symbol)
    · exact .inl crosses
  · rintro (crosses | before)
    · exact (FileTree.crosses_of_isDirectory opens.isDirectory_below).2 _ crosses
    · exact (opens.makes.changes fun _ => False).directory (aside.changes.directory before)

/-- What is in the way of the file once it is open is the same behind whatever other blocks. -/
theorem Aside.obstacle?_eq {state' : OutputDirectory} (first : Aside directory symbol tree state)
    (second : Aside directory symbol tree state') {below opened below' opened' : FileTree}
    {output output' : OutputFile}
    (opens : output.Opens (blockPath directory symbol) state.tree below opened)
    (opens' : output'.Opens (blockPath directory symbol) state'.tree below' opened') :
    opened'.obstacle? (blockPath directory symbol) =
      opened.obstacle? (blockPath directory symbol) := by
  have at_place {state : OutputDirectory} {below opened : FileTree} {output : OutputFile}
      (opens : output.Opens (blockPath directory symbol) state.tree below opened) :
      opened.at? (blockPath directory symbol).place =
        below.at? (blockPath directory symbol).place := by
    rw [opens.at?, if_neg (place_ne_temporary opens.destination opens.beside)]
  rcases FileTree.obstacle?_of_isDirectory_parent (blockPath directory symbol) with
    ⟨fault, always⟩ | always
  · rw [always _ opens.isDirectory, always _ opens'.isDirectory]
  · rw [always _ opens.isDirectory, always _ opens'.isDirectory, at_place opens, at_place opens']
    have same := (first.directory_iff opens).trans (second.directory_iff opens').symm
    simp only [same]

/-! ### The block, behind other blocks -/

variable {strict : Prop} {state' : OutputDirectory} {reserved reserved' : List String}
  {result result' : BlockResult}

/-- What is found in the way of the directory of a block is in its way, where the directory of all
can be made if it is missing. -/
theorem bars_of_founds {fault : FileFault} {after : FileTree} (founds : tree.Founds directory)
    (failed : tree.makeDirectories (blockPath directory symbol).parent = (.error fault, after)) :
    after.Bars (blockPath directory symbol).parent fault := by
  rw [parent_blockPath] at failed ⊢
  exact founds.bars failed

omit [WorkingDirectory] in
/-- Where a run goes on without a file, it was the file system that refused it. -/
theorem isRefusal_of_unopenedResult {path : Path} {cause : FileFault}
    (reached : unopenedResult (OutputFile.create.refusal path cause) = .ok result) :
    cause.isRefusal = true := by
  by_contra other
  rw [OutputFile.create.refusal, if_neg other] at reached
  cases reached

/-- The file of a block is opened or refused whatever other blocks have left, and then it is taken
or refused. Only the reason why it is not opened may differ. -/
theorem Aside.deliver_repeats {start start' : Pass}
    (first : Aside directory start.scope.symbol tree state)
    (second : Aside directory start.scope.symbol tree state')
    (same : start'.scope.symbol = start.scope.symbol)
    (result_eq : ((generator.emission block).outcome start').1 =
      ((generator.emission block).outcome start).1)
    (sink_eq : ((generator.emission block).outcome start').2.sink =
      ((generator.emission block).outcome start).2.sink)
    (founds : strict → state.tree.Founds directory)
    (founds' : strict → state'.tree.Founds directory)
    (reached : (generator.deliver (.toDirectory generator directory source) block start state).1 =
      .ok result)
    (reached' : (generator.deliver (.toDirectory generator directory source) block start'
      state').1 = .ok result') :
    Repeats strict (.ok result) (.ok result') := by
  have unclaimed' := second.unclaimed
  have files {place : Place}
      (crosses : (blockPath directory start.scope.symbol).parent.Crosses place) :=
    (first.files crosses).trans (second.files crosses).symm
  rcases created : OutputFile.create state.tree (blockPath directory start.scope.symbol) with
    ⟨fault | output, opened⟩
  all_goals
    rcases created' : OutputFile.create state'.tree (blockPath directory start.scope.symbol) with
      ⟨fault' | output', opened'⟩
  · -- in neither run is the file opened
    rw [fst_deliver_of_unopened first.unclaimed created] at reached
    rw [← same] at unclaimed' created'
    rw [fst_deliver_of_unopened unclaimed' created'] at reached'
    rw [same] at created'
    rw [← reached, ← reached']
    by_cases holds : strict
    · rw [OutputFile.create_error_of_files (fun _ => files) (bars_of_founds (founds holds))
        (bars_of_founds (founds' holds)) created created']
      exact .same _
    · obtain ⟨cause, _, rfl, -⟩ := OutputFile.create_again_of_error created
      obtain ⟨cause', _, rfl, -⟩ := OutputFile.create_again_of_error created'
      refine repeats_unopenedResult (.inr ?_) fun strict => absurd strict holds
      exact ⟨isRefusal_of_unopenedResult reached', isRefusal_of_unopenedResult reached⟩
  -- what is opened in one run is opened in the other, as the same files are in the way
  · obtain ⟨_, _, opens⟩ := OutputFile.create_ok_of_files (fun _ crosses => (files crosses).symm)
      created'
    cases created.symm.trans opens
  · obtain ⟨_, _, opens⟩ := OutputFile.create_ok_of_files (fun _ => files) created
    cases created'.symm.trans opens
  · -- in both runs it is, and the same is in its way
    obtain ⟨below, opens⟩ := OutputFile.opens_create created
    obtain ⟨below', opens'⟩ := OutputFile.opens_create created'
    have obstacle := first.obstacle?_eq second opens opens'
    obtain ⟨-, is⟩ : _ ∧ (generator.deliver (.toDirectory generator directory source) block start
        state).1 = _ :=
      deliver_of_created first.unclaimed created
    rw [← same] at unclaimed' created'
    obtain ⟨-, is'⟩ : _ ∧ (generator.deliver (.toDirectory generator directory source) block start'
        state').1 = _ :=
      deliver_of_created unclaimed' created'
    rw [reached] at is
    rw [reached', same, result_eq, sink_eq, obstacle, ← is] at is'
    rw [is']
    exact .same _

/-- A block comes to the same behind whatever other blocks, if the same names are taken. Only the
reason why its file is not opened may differ. -/
theorem Aside.comesTo_repeats (builtin : generator.templates = .builtin)
    (same : ∀ name, name ∈ reserved' ↔ name ∈ reserved)
    (spelt : generator.baseSymbol block.info = .ok symbol) (taken : symbol ∈ reserved)
    (first : Aside directory symbol tree state) (second : Aside directory symbol tree state')
    (founds : strict → state.tree.Founds directory)
    (founds' : strict → state'.tree.Founds directory)
    (reached : (generator.comesTo (.toDirectory generator directory source) block reserved
      state).1 = .ok result)
    (reached' : (generator.comesTo (.toDirectory generator directory source) block reserved'
      state').1 = .ok result') :
    Repeats strict (.ok result) (.ok result') := by
  unfold Generator.comesTo at reached reached'
  rcases filtered : generator.settings.allows block.info.processes with fault | _ | _
  · rw [prepare_of_refused filtered] at reached
    cases reached
  · rw [prepare_of_forbidden filtered] at reached reached'
    cases reached
    cases reached'
    exact .same _
  · -- the same pass starts behind the other blocks, if it starts at all
    rw [prepare_of_allowed filtered] at reached reached'
    cases started : Pass.start generator block reserved with
    | error fault =>
      rw [started] at reached
      cases reached
    | ok start =>
      obtain rfl := symbol_of_start started spelt
      obtain ⟨start', started', symbol', result_eq, sink_eq, -⟩ :=
        emission_of_same_names builtin same started taken
      rw [started] at reached
      rw [started'] at reached'
      exact first.deliver_repeats second symbol' result_eq sink_eq founds founds' reached reached'

/-! ### Runs -/

/-- A run that has come past other blocks. -/
structure Behind (strict : Prop) (directory : Path) (symbol : String) (tree : FileTree)
    (reserved : List String) (state : RunState OutputDirectory) : Prop where
  /-- The tree is what other blocks have left. -/
  aside : Aside directory symbol tree state.destination
  /-- The same names are taken as at the start. -/
  reserved : state.reserved = reserved
  /-- The directory can be made if it is missing, if reasons are to be the same. -/
  founds : strict → state.destination.tree.Founds directory

theorem Behind.start {symbols : List String} (symbol : String)
    (founds : strict → tree.Founds directory) :
    Behind strict directory symbol tree symbols (filesStart tree symbols) :=
  ⟨.start _ _ _, rfl, founds⟩

/-- One other block. -/
theorem Behind.runBlock {state : RunState OutputDirectory}
    (behind : Behind strict directory symbol tree reserved state) (source : Json)
    (apart : ∀ other, generator.baseSymbol block.info = .ok other →
      blockPath directory other ≠ blockPath directory symbol) :
    Behind strict directory symbol tree reserved
      ((generator.runBlock (.toDirectory generator directory source) false block).outcome
        state).2 := by
  obtain ⟨-, destination, kept, -⟩ :=
    generator.runBlock_comesTo (.toDirectory generator directory source) block state
  refine ⟨?_, kept.trans behind.reserved, fun holds => ?_⟩
  · rw [destination]
    exact behind.aside.comesTo generator source block _ apart
  · rw [destination]
    exact founds_comesTo generator source block _ (behind.founds holds)

/-- All other blocks. -/
theorem Behind.blocks {blocks : List Block} {state : RunState OutputDirectory}
    (behind : Behind strict directory symbol tree reserved state)
    (apart : ∀ block ∈ blocks, ∀ other, generator.baseSymbol block.info = .ok other →
      blockPath directory other ≠ blockPath directory symbol) :
    Behind strict directory symbol tree reserved
      ((blocks.forM (generator.runBlock (.toDirectory generator directory source)
        false)).outcome state).2 :=
  holds_blocks (Behind strict directory symbol tree reserved)
    (fun block member _ behind => behind.runBlock source (apart block member)) behind

end Generator

end HostBindings
