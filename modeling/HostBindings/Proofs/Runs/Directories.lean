import HostBindings.Generation
import HostBindings.Proofs.Emission.Drain
import HostBindings.Proofs.Files.Outputs
import HostBindings.Proofs.Runs.Blocks

/-!
# Runs into a directory

Where every block goes to a file of its own, the files of the generated blocks are there at the end
of a run, each with the text that its pass made, and no other file has changed. A path belongs to
the first block that has it, so no block of the run takes the file of another.

## Main definitions

* `Generator.Delivers` — what becomes of a destination while a block is generated
* `blockNames` — where the file of a block is below the directory
* `Generator.blockText` — the text of the file of a block
* `Generator.PlaceOf`, `Generator.WrittenAt` — where the files of blocks are
* `Generator.Filed` — what is known of the file of a block
* `Generator.FilesBetween` — a directory between two blocks
* `Generator.FilesEnd` — how generating a description into a directory ends

## Main results

* `Generator.delivers_runBlock` — a block whose pass starts
* `Generator.FilesBetween.blocks` — all blocks
* `Generator.generateFiles_eq`, `Generator.filesEnd_generateFiles`, `Generator.generateFiles_ends` —
  all files of a description
-/

namespace HostBindings

open Api (Block Schema)
open FileTree (Keeps)

namespace Generator

variable {σ η : Type} {generator : Generator} {destination : Destination σ η} {shared : Bool}
  {block : Block} {start pass : Pass}

/-! ### Deliveries -/

/-- What becomes of a destination while the pass of a block runs, from where the pass starts. -/
inductive Delivers (generator : Generator) (destination : Destination σ η) (block : Block)
    (start : Pass) (before : σ) : Except Interruption BlockResult → σ → Prop where
  /-- It cannot be opened at all. -/
  | lost {fault : FileFault} {after : σ} :
      destination.openFor block start.scope.symbol before = (.error (.path fault), after) →
      Delivers generator destination block start before (.error (.path fault)) after
  /-- It is not opened. -/
  | unopened {error : SinkError} {after : σ} :
      destination.openFor block start.scope.symbol before = (.error (.sink error), after) →
      Delivers generator destination block start before (.ok (.failed (.sink error))) after
  /-- It is opened, and released since the pass fails. -/
  | released {handle : η} {opened : σ} {fault : PassFault} {pass : Pass} :
      destination.openFor block start.scope.symbol before = (.ok handle, opened) →
      (generator.emission block).outcome start = (.error fault, pass) →
      Delivers generator destination block start before (.ok (.failed (.pass fault)))
        (destination.release handle opened)
  /-- It is opened, and does not take the text. -/
  | refused {handle : η} {opened after : σ} {nested : Nat} {pass : Pass} {error : SinkError} :
      destination.openFor block start.scope.symbol before = (.ok handle, opened) →
      Emit.Runs (generator.emission block) start nested pass →
      destination.commit handle pass.sink opened = (.error error, after) →
      Delivers generator destination block start before (.ok (.failed (.sink error))) after
  /-- It is opened, and takes the text. -/
  | taken {handle : η} {opened after : σ} {nested : Nat} {pass : Pass} :
      destination.openFor block start.scope.symbol before = (.ok handle, opened) →
      Emit.Runs (generator.emission block) start nested pass →
      destination.commit handle pass.sink opened = (.ok (), after) →
      Delivers generator destination block start before (.ok (.generated nested)) after

/-- A block whose pass starts is delivered in one of the ways, and its result is its outcome. -/
theorem delivers_runBlock (destination : Destination σ η) (shared : Bool) {state : RunState σ}
    (prepared : generator.prepare block state.reserved = .ok (some start)) :
    ∃ result, generator.Delivers destination block start state.destination result
        ((generator.runBlock destination shared block).outcome state).2.destination ∧
      ((generator.runBlock destination shared block).outcome state).1 =
        result.map (fun _ => ()) ∧
      ∀ ended, result = .ok ended →
        ((generator.runBlock destination shared block).outcome state).2.outcomes =
          state.outcomes ++ [⟨block.name, ended⟩] := by
  rcases opening : destination.openFor block start.scope.symbol state.destination with
    ⟨⟨error | fault⟩ | handle, opened⟩
  all_goals
    simp only [outcome_runBlock, prepared, opening, RunState.begin]
  · simp only [Running.outcome_bind, Running.outcome_note, Running.outcome_finish]
    exact ⟨_, .unopened opening, rfl, fun _ same => by cases same; rfl⟩
  · exact ⟨_, .lost opening, rfl, fun _ same => by cases same⟩
  rw [outcome_runPass]
  rcases emitted : (generator.emission block).outcome start with ⟨fault | nested, pass⟩
  · exact ⟨_, .released opening emitted, rfl, fun _ same => by cases same; rfl⟩
  dsimp only
  rw [outcome_commitPass]
  rcases committed : destination.commit handle pass.sink opened with ⟨error | _, after⟩
  · exact ⟨_, .refused opening emitted committed, rfl, fun _ same => by cases same; rfl⟩
  · exact ⟨_, .taken opening emitted committed, rfl, fun _ same => by cases same; rfl⟩

end Generator

/-! ### The file of a block -/

/-- Where the file of a block is below the directory: in that of its package, under its name. -/
def blockNames (symbol : String) : List String :=
  [Naming.packageOfSymbol symbol, Naming.packageOfSymbol symbol ++ Generator.fileExtension]

theorem blockPath_eq (directory : Path) (symbol : String) :
    blockPath directory symbol = directory.beneath (blockNames symbol) :=
  Path.child_child_eq _ _ _

/-- A package name is made of letters and digits. -/
theorem isPackageChar_of_mem {symbol : String} {c : Char}
    (member : c ∈ (Naming.packageOfSymbol symbol).toList) : Naming.isPackageChar c = true := by
  unfold Naming.packageOfSymbol at member
  have filtered {kept : List Char}
      (found : (Text.toLower symbol.toList).filter Naming.isPackageChar = kept) :
      ∀ c ∈ kept, Naming.isPackageChar c = true :=
    fun c inside => (List.mem_filter.mp (found ▸ inside)).2
  split at member
  next =>
    have only : c = 'x' := by simpa using member
    rw [only]
    rfl
  next first rest found =>
    split at member
    · rw [String.toList_ofList, List.mem_cons] at member
      rcases member with rfl | inside
      · rfl
      · exact filtered found c inside
    · rw [String.toList_ofList] at member
      exact filtered found c member

theorem packageOfSymbol_ne_empty (symbol : String) : Naming.packageOfSymbol symbol ≠ "" := by
  unfold Naming.packageOfSymbol
  split
  · decide
  · split <;> exact fun same => by simpa using congrArg String.toList same

/-- A name with the extension of generated files is a component. -/
theorem isPart_append_extension {name : String} (single : '/' ∉ name.toList) :
    Path.IsPart (name ++ Generator.fileExtension) := by
  have extension : Generator.fileExtension.toList = ['.', 'g', 'o'] := by decide
  have spelt : (name ++ Generator.fileExtension).toList = name.toList ++ ['.', 'g', 'o'] := by
    rw [String.toList_append, extension]
  refine ⟨fun same => ?_, fun same => ?_, fun slash => ?_⟩
  · have lengths := congrArg (·.toList.length) same
    simp [extension] at lengths
  · have lengths := congrArg (·.toList.length) same
    simp [extension] at lengths
  · rw [spelt] at slash
    simp [single] at slash

/-- The names of a file of a block are components. -/
theorem isPart_of_mem_blockNames {symbol name : String} (member : name ∈ blockNames symbol) :
    Path.IsPart name := by
  have other {c : Char} (not : Naming.isPackageChar c = false) :
      c ∉ (Naming.packageOfSymbol symbol).toList := fun inside => by
    rw [isPackageChar_of_mem inside] at not
    cases not
  rcases List.mem_cons.mp member with rfl | file
  · refine ⟨packageOfSymbol_ne_empty symbol, fun dot => ?_, other (by decide)⟩
    exact other (c := '.') (by decide) (by simp [dot])
  · rw [List.mem_singleton.mp file]
    exact isPart_append_extension (other (by decide))

/-- The names of a file of a block do not lead upwards. -/
theorem straight_blockNames (symbol : String) : ".." ∉ blockNames symbol := by
  intro upwards
  rcases List.mem_cons.mp upwards with package | file
  · have dot : '.' ∈ (Naming.packageOfSymbol symbol).toList := by
      rw [← package]
      decide
    exact absurd (isPackageChar_of_mem dot) (by decide)
  · have lengths := congrArg (·.toList.length) (List.mem_singleton.mp file)
    simp [Generator.fileExtension] at lengths

namespace Generator

variable {generator : Generator} {directory : Path} {source : Json} {block : Block}
  {start pass : Pass} {before after opened : OutputDirectory}

/-- The path of a block is made of its symbol. -/
theorem outputPath_eq_ok {path : Path} :
    generator.outputPath block directory = .ok path ↔
      ∃ symbol, generator.baseSymbol block.info = .ok symbol ∧
        path = blockPath directory symbol := by
  unfold outputPath packageOf blockPath
  cases generator.baseSymbol block.info <;>
    simp [bind, Except.bind, pure, Except.pure, eq_comm]

/-- The text of the file of a block: its pass starts with the names of all blocks taken. -/
def blockText (generator : Generator) (schema : Schema) (block : Block) : Option String := do
  let symbols ← (generator.blockSymbols schema).toOption
  let start ← (Pass.start generator block symbols).toOption
  let (result, pass) := (generator.emission block).outcome start
  let _ ← result.toOption
  let package := Naming.packageOfSymbol start.scope.symbol
  let header ← (generator.fileHeader (.string package) pass.sink.imports schema.source
    (some block.info)).toOption
  return OutputFile.content header pass.sink.text

/-- Where names are not shared, a block does not change the names that are taken. -/
theorem reserved_runBlock (generator : Generator) (block : Block) (destination : Destination σ η)
    (state : RunState σ) :
    ((generator.runBlock destination false block).outcome state).2.reserved = state.reserved := by
  have ended := blockEnd_runBlock generator destination false block state
  generalize ((generator.runBlock destination false block).outcome state).1 = result at ended
  generalize ((generator.runBlock destination false block).outcome state).2 = after at ended ⊢
  cases ended with
  | unprepared _ _ adds | skipped _ _ adds | lost _ _ _ adds | failed _ _ _ adds
  | generated _ _ _ _ adds => exact adds.reserved

/-! ### The destination -/

/-- A path that is opened stays listed. -/
theorem isSome_lookup_append {claimed : List (Path × String)} (more : List (Path × String))
    {path : Path} (listed : (claimed.lookup path).isSome) :
    ((claimed ++ more).lookup path).isSome := by
  obtain ⟨name, found⟩ := Option.isSome_iff_exists.mp listed
  rw [List.lookup_append, found]
  rfl

variable [WorkingDirectory]

/-- A path that is opened was not opened before. -/
theorem openFor_eq_ok {symbol : String} {file : BlockFile}
    (opening : (Destination.toDirectory generator directory source).openFor block symbol before =
      (.ok file, opened)) :
    before.claimed.lookup (blockPath directory symbol) = none ∧
      file.output.Opened (blockPath directory symbol) before.tree opened.tree ∧
      file.package = Naming.packageOfSymbol symbol ∧ file.block = block ∧
      opened.claimed = before.claimed ++ [(blockPath directory symbol, block.name)] := by
  simp only [Destination.toDirectory] at opening
  split at opening
  · cases opening
  next unclaimed =>
    rcases created : OutputFile.create before.tree (blockPath directory symbol) with
      ⟨fault | output, tree⟩
    all_goals
      rw [created] at opening
      cases opening
    exact ⟨unclaimed, OutputFile.opened_create created, rfl, rfl, rfl⟩

/-- A path that is not opened leaves at most directories. -/
theorem openFor_eq_error {symbol : String} {fault : OpenFault}
    (opening : (Destination.toDirectory generator directory source).openFor block symbol before =
      (.error fault, after)) :
    Keeps (fun _ => False) before.tree after.tree ∧ after.claimed = before.claimed := by
  simp only [Destination.toDirectory] at opening
  split at opening
  · cases opening
    exact ⟨.refl _ _, rfl⟩
  next =>
    rcases created : OutputFile.create before.tree (blockPath directory symbol) with
      ⟨fault | output, tree⟩
    all_goals
      rw [created] at opening
      cases opening
    exact ⟨OutputFile.keeps_create created, rfl⟩

/-- A commit is one of the file. -/
theorem commit_eq {file : BlockFile} {sink : Sink} {taken : Except SinkError Unit}
    (committed : (Destination.toDirectory generator directory source).commit file sink opened =
      (taken, after)) :
    file.output.commit ((generator.fileHeader (.string file.package) sink.imports source
      (some file.block.info)).mapError CommitFault.header) sink opened.tree = (taken, after.tree) ∧
    after.claimed = opened.claimed := by
  simp only [Destination.toDirectory] at committed
  cases committed
  exact ⟨rfl, rfl⟩

/-- Whatever becomes of a block, it only touches its own file: only if it is generated, and only if
that is not the file of another block already. -/
theorem Delivers.keeps {result : Except Interruption BlockResult}
    (delivers : generator.Delivers (.toDirectory generator directory source) block start before
      result after) :
    Keeps (fun place => (∃ nested, result = .ok (.generated nested)) ∧
      before.claimed.lookup (blockPath directory start.scope.symbol) = none ∧
      blockNames start.scope.symbol <:+ place) before.tree after.tree ∧
    ∀ path, (before.claimed.lookup path).isSome → (after.claimed.lookup path).isSome := by
  cases delivers with
  | lost opening | unopened opening =>
    obtain ⟨keeps, claimed⟩ := openFor_eq_error opening
    exact ⟨keeps.of_false, fun path listed => claimed ▸ listed⟩
  | released opening failed =>
    obtain ⟨-, output, -, -, claimed⟩ := openFor_eq_ok opening
    refine ⟨output.keeps_from ((OutputFile.keeps_release output.there).mono fun _ => .inl), ?_⟩
    exact fun path listed => claimed ▸ isSome_lookup_append _ listed
  | refused opening ran committed =>
    -- as without a text, the temporary file is gone in the end
    obtain ⟨-, output, -, -, claimed⟩ := openFor_eq_ok opening
    obtain ⟨refused, same⟩ := commit_eq committed
    refine ⟨output.keeps_from ((OutputFile.keeps_commit output.there refused).mono fun _ => .inl),
      ?_⟩
    exact fun path listed => same ▸ claimed ▸ isSome_lookup_append _ listed
  | taken opening ran committed =>
    obtain ⟨unclaimed, output, -, -, claimed⟩ := openFor_eq_ok opening
    obtain ⟨taken, same⟩ := commit_eq committed
    rw [blockPath_eq] at output
    obtain ⟨_, -, -, keeps⟩ :=
      output.commit_eq_ok (by simp [blockNames]) (straight_blockNames _) taken
    refine ⟨output.keeps_from (keeps.mono fun place here => ?_), ?_⟩
    · exact here.imp (fun temporary => temporary) fun ends => ⟨⟨_, rfl⟩, unclaimed, ends⟩
    · exact fun path listed => same ▸ claimed ▸ isSome_lookup_append _ listed

/-- The file of a generated block is there, with its header and the text of its pass. -/
theorem Delivers.generated {nested : Nat}
    (delivers : generator.Delivers (.toDirectory generator directory source) block start before
      (.ok (.generated nested)) after) :
    ∃ pass head, Emit.Runs (generator.emission block) start nested pass ∧
      generator.fileHeader (.string (Naming.packageOfSymbol start.scope.symbol))
        pass.sink.imports source (some block.info) = .ok head ∧
      after.tree.Holds directory (blockNames start.scope.symbol)
        (OutputFile.content head pass.sink.text) ∧
      (after.claimed.lookup (blockPath directory start.scope.symbol)).isSome := by
  cases delivers with
  | @taken file opened _ _ pass opening ran committed =>
    obtain ⟨-, output, package, owner, claimed⟩ := openFor_eq_ok opening
    -- the header is made for the package and the block that the file was opened for
    obtain ⟨taken, same⟩ := commit_eq committed
    rw [blockPath_eq] at output
    obtain ⟨head, made, holds, -⟩ :=
      output.commit_eq_ok (by simp [blockNames]) (straight_blockNames _) taken
    rw [package, owner, mapError_eq_ok_iff] at made
    refine ⟨pass, head, ran, made, holds, ?_⟩
    rw [same, claimed, List.lookup_append]
    cases opened.claimed.lookup (blockPath directory start.scope.symbol) <;> simp

/-! ### Between two blocks -/

/-- The place of the file of a block. -/
def PlaceOf (generator : Generator) (block : Block) (place : Place) : Prop :=
  ∃ symbol, generator.baseSymbol block.info = .ok symbol ∧ blockNames symbol <:+ place

/-- The places of the files of blocks that were generated, by their outcomes. -/
def WrittenAt (generator : Generator) (blocks : List Block) (outcomes : List Outcome)
    (place : Place) : Prop :=
  ∃ block outcome, (block, outcome) ∈ blocks.zip outcomes ∧
    outcome.result.isGenerated = true ∧ generator.PlaceOf block place

/-- What is known of the file of a block by its outcome: if the block was generated, its text is
there. -/
structure Filed (generator : Generator) (schema : Schema) (directory : Path)
    (state : OutputDirectory) (block : Block) (outcome : Outcome) : Prop where
  /-- The outcome is one of the block. -/
  name : outcome.name = block.name
  /-- If the block was generated, its file is there. -/
  file : outcome.result.isGenerated = true → ∃ symbol text,
    generator.baseSymbol block.info = .ok symbol ∧ generator.blockText schema block = some text ∧
      state.tree.Holds directory (blockNames symbol) text ∧
      (state.claimed.lookup (blockPath directory symbol)).isSome

/-- A directory between two blocks: the files of the blocks that are done are there, and no others
have changed since the first block. -/
structure FilesBetween (generator : Generator) (schema : Schema) (directory : Path)
    (first : FileTree) (done : List Block) (state : RunState OutputDirectory) : Prop where
  /-- The names of all blocks are taken. -/
  reserved : generator.blockSymbols schema = .ok state.reserved
  /-- The files are there. -/
  filed : List.Forall₂ (generator.Filed schema directory state.destination) done state.outcomes
  /-- Other files have not changed. -/
  keeps : Keeps (generator.WrittenAt done state.outcomes) first state.destination.tree

variable {schema : Schema} {outcome : Outcome} {first : FileTree}

/-- The file of a block stays when the file of another block changes. -/
theorem Filed.step {symbol : String} {touched : Prop}
    (filed : generator.Filed schema directory before block outcome)
    (keeps : Keeps (fun place => touched ∧
      before.claimed.lookup (blockPath directory symbol) = none ∧
      blockNames symbol <:+ place) before.tree after.tree)
    (listed : ∀ path, (before.claimed.lookup path).isSome → (after.claimed.lookup path).isSome) :
    generator.Filed schema directory after block outcome := by
  refine ⟨filed.name, fun generated => ?_⟩
  obtain ⟨own, text, spelt, made, holds, claimed⟩ := filed.file generated
  refine ⟨own, text, spelt, made, holds.keeps keeps ?_, listed _ claimed⟩
  -- a file at the same place would have the same path, and that is claimed
  rintro place ends ⟨-, unclaimed, others⟩
  have same : blockNames own = blockNames symbol := FileTree.eq_of_suffix_place ends others rfl
  rw [blockPath_eq, ← same, ← blockPath_eq] at unclaimed
  simp [unclaimed] at claimed

/-- One more block whose outcome is known, and a directory in which the files of the others stay. -/
theorem FilesBetween.add {done : List Block} {state next : RunState OutputDirectory}
    (between : generator.FilesBetween schema directory first done state)
    (reserved : next.reserved = state.reserved)
    (outcomes : next.outcomes = state.outcomes ++ [outcome])
    (stay : ∀ block outcome, generator.Filed schema directory state.destination block outcome →
      generator.Filed schema directory next.destination block outcome)
    (filed : generator.Filed schema directory next.destination block outcome)
    (keeps : Keeps (fun place => outcome.result.isGenerated = true ∧ generator.PlaceOf block place)
      state.destination.tree next.destination.tree) :
    generator.FilesBetween schema directory first (done ++ [block]) next where
  reserved := by rw [reserved, between.reserved]
  filed := by
    rw [outcomes]
    exact List.rel_append (between.filed.imp stay) (.cons filed .nil)
  keeps := by
    have pairs : (done ++ [block]).zip next.outcomes =
        done.zip state.outcomes ++ [(block, outcome)] := by
      rw [outcomes, List.zip_append between.filed.length_eq]
      rfl
    refine (between.keeps.mono ?_).trans (keeps.mono ?_)
    · rintro place ⟨other, ended, member, written⟩
      exact ⟨other, ended, pairs ▸ List.mem_append_left _ member, written⟩
    · intro place written
      exact ⟨block, outcome, by simp [pairs], written⟩

/-- One block: only its own file changes, and if the run goes on, that is there where it was
generated. -/
theorem FilesBetween.runBlock {done : List Block} {state next : RunState OutputDirectory}
    {result : Except Interruption Unit}
    (between : generator.FilesBetween schema directory first done state)
    (ran : (generator.runBlock (.toDirectory generator directory schema.source) false block).outcome
      state = (result, next)) :
    Keeps (generator.PlaceOf block) state.destination.tree next.destination.tree ∧
      (result = .ok () →
        generator.FilesBetween schema directory first (done ++ [block]) next) := by
  let destination := Destination.toDirectory generator directory schema.source
  have reserved : next.reserved = state.reserved := by
    have same := reserved_runBlock generator block destination state
    rwa [ran] at same
  cases prepared : generator.prepare block state.reserved with
  | error fault =>
    obtain ⟨failed, same, -⟩ := runBlock_of_unprepared destination false prepared
    rw [ran] at failed same
    dsimp only at failed same
    rw [same, failed]
    exact ⟨.refl _ _, fun finished => by cases finished⟩
  | ok start? =>
    cases start? with
    | none =>
      obtain ⟨-, same, adds⟩ := runBlock_of_skipped destination false prepared
      rw [ran] at same adds
      dsimp only at same adds
      refine ⟨same ▸ .refl _ _, fun _ => between.add reserved adds.outcomes ?_ ?_ ?_⟩
      · rw [same]
        exact fun _ _ filed => filed
      · exact ⟨rfl, fun generated => by cases generated⟩
      · rw [same]
    | some start =>
      obtain ⟨ended, delivers, ending, outcomes⟩ :=
        delivers_runBlock destination false prepared
      rw [ran] at delivers ending outcomes
      dsimp only at delivers ending outcomes
      obtain ⟨-, started⟩ := prepare_eq_some.mp prepared
      have spelt := baseSymbol_of_start started
      obtain ⟨keeps, listed⟩ := delivers.keeps
      constructor
      · exact keeps.mono fun place here => ⟨start.scope.symbol, spelt, here.2.2⟩
      -- a run that goes on has an outcome for the block
      · intro finished
        rw [finished] at ending
        cases ended with
        | error cause => cases ending
        | ok result =>
          refine between.add reserved (outcomes result rfl)
            (fun _ _ filed => filed.step keeps listed) ⟨rfl, fun generated => ?_⟩ (keeps.mono ?_)
          · cases result with
            | generated nested =>
              obtain ⟨pass, head, emitted, header, holds, claimed⟩ := delivers.generated
              have emission : (generator.emission block).outcome start = (.ok nested, pass) :=
                emitted
              refine ⟨start.scope.symbol, _, spelt, ?_, holds, claimed⟩
              simp [blockText, between.reserved, started, emission, header, Except.toOption]
            | skipped | failed => cases generated
          · rintro place ⟨⟨nested, same⟩, -, ends⟩
            cases same
            exact ⟨rfl, start.scope.symbol, spelt, ends⟩

/-- All blocks: only their files change, and if the run comes to its end, they are there. -/
theorem FilesBetween.blocks {done blocks : List Block} {state next : RunState OutputDirectory}
    {result : Except Interruption Unit}
    (between : generator.FilesBetween schema directory first done state)
    (ran : (blocks.forM (generator.runBlock (.toDirectory generator directory schema.source)
      false)).outcome state = (result, next)) :
    Keeps (fun place => ∃ block ∈ blocks, generator.PlaceOf block place) state.destination.tree
        next.destination.tree ∧
      (result = .ok () →
        generator.FilesBetween schema directory first (done ++ blocks) next) := by
  -- the blocks that are done already grow by the first one
  induction blocks generalizing done state with
  | nil =>
    cases ran
    exact ⟨.refl _ _, fun _ => by rwa [List.append_nil]⟩
  | cons block rest ih =>
    rw [Running.outcome_forM_cons] at ran
    rcases step : (generator.runBlock (.toDirectory generator directory schema.source) false
      block).outcome state with ⟨cause | _, middle⟩
    all_goals
      rw [step] at ran
      obtain ⟨keeps, goesOn⟩ := between.runBlock step
      have own : Keeps (fun place => ∃ other ∈ block :: rest, generator.PlaceOf other place)
          state.destination.tree middle.destination.tree :=
        keeps.mono fun place here => ⟨block, List.mem_cons_self, here⟩
    · cases ran
      exact ⟨own, fun finished => by cases finished⟩
    · obtain ⟨others, last⟩ := ih (goesOn rfl) ran
      refine ⟨own.trans (others.mono fun place ⟨other, member, here⟩ =>
        ⟨other, List.mem_cons_of_mem _ member, here⟩), fun finished => ?_⟩
      rw [List.append_cons]
      exact last finished

/-! ### A description -/

/-- The state in which the blocks of a description are generated into a directory. -/
def filesStart (tree : FileTree) (symbols : List String) : RunState OutputDirectory :=
  { destination := { tree }, reserved := symbols }

/-- What generating a description into a directory comes to. -/
theorem generateFiles_eq (generator : Generator) (schema : Schema) (directory : Path)
    (tree : FileTree) (log : Log) :
    ((generator.generateFiles schema directory tree).run log).1 =
      if schema.blocks.isEmpty then (.error (.noBlocks schema.source.text), tree)
      else
        match generator.review schema, generator.blockSymbols schema with
        | .error fault, _ | .ok _, .error fault => (.error (.interrupted (.setting fault)), tree)
        | .ok remarks, .ok symbols =>
          let ran := (schema.blocks.forM (generator.runBlock
            (.toDirectory generator directory schema.source) false)).outcome
              (filesStart tree symbols)
          (match ran.1 with
            | .error cause => .error (.interrupted cause)
            | .ok () => .ok
                { code := "", warnings := remarks.map Remark.message ++ ran.2.warnings
                  blockCount := schema.blocks.length, report := reportOf schema ran.2 },
            ran.2.destination.tree) := by
  unfold generateFiles
  dsimp only
  split
  · rfl
  · rw [reviewAndRun_eq, run_eq, outcome_runThrough]
    cases generator.review schema with
    | error fault => rfl
    | ok remarks =>
      cases generator.blockSymbols schema with
      | error fault => rfl
      | ok symbols =>
        rcases through : (schema.blocks.forM (generator.runBlock
          (.toDirectory generator directory schema.source) false)).outcome
            (filesStart tree symbols) with ⟨cause | _, reached⟩
        all_goals
          unfold filesStart at through ⊢
          simp only [through]
          rfl

/-- The ways in which generating a description into a directory ends. -/
inductive FilesEnd (generator : Generator) (schema : Schema) (directory : Path) (tree : FileTree) :
    Except GenerationFault Generation → FileTree → Prop where
  /-- It is refused before anything is written. -/
  | refused {fault : GenerationFault} : FilesEnd generator schema directory tree (.error fault) tree
  /-- A block interrupts the run. -/
  | interrupted {symbols : List String} {cause : Interruption} {last : RunState OutputDirectory} :
      generator.blockSymbols schema = .ok symbols →
      (schema.blocks.forM (generator.runBlock (.toDirectory generator directory schema.source)
        false)).outcome (filesStart tree symbols) = (.error cause, last) →
      FilesEnd generator schema directory tree (.error (.interrupted cause)) last.destination.tree
  /-- The run comes past all blocks. -/
  | reported {remarks : List Remark} {symbols : List String} {last : RunState OutputDirectory} :
      generator.blockSymbols schema = .ok symbols →
      (schema.blocks.forM (generator.runBlock (.toDirectory generator directory schema.source)
        false)).outcome (filesStart tree symbols) = (.ok (), last) →
      FilesEnd generator schema directory tree
        (.ok { code := "", warnings := remarks.map Remark.message ++ last.warnings
               blockCount := schema.blocks.length, report := reportOf schema last })
        last.destination.tree

/-- Every description ends in one of the ways. -/
theorem filesEnd_generateFiles (generator : Generator) (schema : Schema) (directory : Path)
    (tree : FileTree) (log : Log) :
    generator.FilesEnd schema directory tree
      ((generator.generateFiles schema directory tree).run log).1.1
      ((generator.generateFiles schema directory tree).run log).1.2 := by
  rw [generateFiles_eq]
  split
  · exact .refused
  cases generator.review schema with
  | error fault => exact .refused
  | ok remarks =>
    cases named : generator.blockSymbols schema with
    | error fault => exact .refused
    | ok symbols =>
      dsimp only
      rcases ran : (schema.blocks.forM (generator.runBlock
        (.toDirectory generator directory schema.source) false)).outcome
          (filesStart tree symbols) with ⟨cause | _, last⟩
      · exact .interrupted named ran
      · exact .reported named ran

/-- A description generated into a directory: only the files of its blocks change. If that comes to
an end, all blocks have names, the files of those that were generated are there, and no others have
changed. -/
theorem generateFiles_ends {tree last : FileTree} {log records : Log}
    {result : Except GenerationFault Generation}
    (ran : (generator.generateFiles schema directory tree).run log = ((result, last), records)) :
    Keeps (fun place => ∃ block ∈ schema.blocks, generator.PlaceOf block place) tree last ∧
      ∀ generation, result = .ok generation →
        ∃ state : RunState OutputDirectory, state.destination.tree = last ∧
          state.outcomes = generation.report.outcomes ∧
          generator.FilesBetween schema directory tree schema.blocks state := by
  have ended := filesEnd_generateFiles generator schema directory tree log
  rw [ran] at ended
  have start {symbols : List String} (named : generator.blockSymbols schema = .ok symbols) :
      generator.FilesBetween schema directory tree [] (filesStart tree symbols) :=
    ⟨named, .nil, .refl _ _⟩
  cases ended with
  | refused => exact ⟨.refl _ _, nofun⟩
  | interrupted named through => exact ⟨((start named).blocks through).1, nofun⟩
  | reported named through =>
    obtain ⟨keeps, finished⟩ := (start named).blocks through
    refine ⟨keeps, fun generation same => ?_⟩
    cases same
    exact ⟨_, rfl, rfl, finished rfl⟩

end Generator

end HostBindings
