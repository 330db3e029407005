import HostBindings.Proofs.Emission.Faults
import HostBindings.Proofs.Layout.Units
import HostBindings.Proofs.Runs.Ends
import HostBindings.Proofs.Runs.Repeats

/-!
# One block, in a unit and in a file

A description of one block goes to a unit or to a file of its own. The pass is the same, and so is
what becomes of it as long as the file can be created and its text encoded. The text of the unit has
a header that is made for the whole description, that of the file has one that is made for the
block; where the unit is named as the package of the block, the two are the same text but for the
final layout.

A text with half of a surrogate pair can be generated, but not written. So for one block whose text
has such a half the two ways part: one reports it as generated, the other as failed.

## Main definitions

* `FileTree.Accepts` — a file can be created at a path
* `Generator.single` — what reviewing and running one block comes to
* `Generator.ModesAgree`, `Generator.ModesPart` — answers that agree, and answers that do not

## Main results

* `Generator.reviewAndRun_single` — one block, in any destination
* `Generator.unitCode_commit` — the code of a unit of one block
* `Generator.single_block_modes`
-/

namespace HostBindings

open Api (Block Schema)

/-- A file can be created at a path: it is opened, and then a text is taken. -/
def FileTree.Accepts [WorkingDirectory] (tree : FileTree) (path : Path) : Prop :=
  ∃ output opened, OutputFile.create tree path = (.ok output, opened) ∧
    ∃ header sink after, output.commit (.ok header) sink opened = (.ok (), after)

namespace Generator

variable {σ η : Type} {generator : Generator} {block : Block}

/-! ### A run of one block -/

/-- What a run comes to, but for the names that are taken from then on. -/
def SameBut (first second : Except Interruption Unit × RunState σ) : Prop :=
  ∃ reserved, second = (first.1, { first.2 with reserved })

theorem SameBut.refl (first : Except Interruption Unit × RunState σ) : SameBut first first :=
  ⟨first.2.reserved, rfl⟩

/-- Names are shared when a text is taken, and only those that are taken from then on differ. -/
theorem runBlock_shared (destination : Destination σ η) (shared : Bool) (block : Block)
    (state : RunState σ) :
    SameBut ((generator.runBlock destination false block).outcome state)
      ((generator.runBlock destination shared block).outcome state) := by
  rw [outcome_runBlock, outcome_runBlock]
  cases generator.prepare block state.reserved with
  | error fault => exact .refl _
  | ok start? =>
    cases start? with
    | none => exact .refl _
    | some start =>
      dsimp only
      rcases destination.openFor block start.scope.symbol state.destination with
        ⟨⟨error | fault⟩ | handle, opened⟩
      · exact .refl _
      · exact .refl _
      · dsimp only
        rw [outcome_runPass, outcome_runPass]
        rcases (generator.emission block).outcome start with ⟨fault | nested, pass⟩
        · exact .refl _
        · dsimp only
          -- up to here neither run has asked whether names are shared
          rw [outcome_commitPass, outcome_commitPass]
          rcases destination.commit handle pass.sink opened with ⟨error | _, after⟩
          · exact .refl _
          · exact ⟨_, rfl⟩

/-- What a description of one block comes to. -/
def single (generator : Generator) (destination : Destination σ η) (source : Json) (block : Block)
    (start : σ) : Except Interruption (List String × RunReport) × σ :=
  let schema : Schema := ⟨source, [block]⟩
  match generator.review schema, generator.blockSymbols schema with
  | .error fault, _ | .ok _, .error fault => (.error (.setting fault), start)
  | .ok remarks, .ok symbols =>
    let came := generator.comesTo destination block symbols start
    (came.1.map fun result => (remarks.map Remark.message ++ came.2.1,
      { source, outcomes := [⟨block.name, result⟩], warnings := came.2.1 }), came.2.2)

/-- Reviewing and running one block is settled by what the block comes to. -/
theorem reviewAndRun_single (destination : Destination σ η) (shared : Bool) (source : Json)
    (block : Block) (start : σ) :
    let ran := generator.reviewAndRun destination shared ⟨source, [block]⟩ start
    (ran.1, ran.2.1) = generator.single destination source block start := by
  simp only [single, reviewAndRun_eq, run_eq, outcome_runThrough]
  cases generator.review ⟨source, [block]⟩ with
  | error fault => rfl
  | ok remarks =>
    cases generator.blockSymbols ⟨source, [block]⟩ with
    | error fault => rfl
    | ok symbols =>
      obtain ⟨reserved, ran⟩ := generator.runBlock_shared destination shared block
        { destination := start, reserved := symbols }
      obtain ⟨ends, last, -, outcomes, warnings⟩ := generator.runBlock_comesTo destination block
        { destination := start, reserved := symbols }
      simp only [Running.outcome_forM_cons, Running.outcome_forM_nil, ran, ends]
      cases came : (generator.comesTo destination block symbols start).1 with
      | error cause =>
        simp only [Except.map, last]
      | ok result =>
        simp only [came, Except.map, last, outcomes, warnings, reportOf, outcomesOf,
          List.nil_append]

/-- One block that goes to a unit. -/
theorem answer_single (source : Json) (block : Block) :
    generator.answer ⟨source, [block]⟩ =
      match generator.single .toUnit source block { source } with
      | (.error cause, _) => .error (.interrupted cause)
      | (.ok (warnings, report), unit) =>
        match generator.unitCode ⟨source, [block]⟩ unit with
        | .error fault => .error (.header fault)
        | .ok code => .ok { code, warnings, blockCount := 1, report } := by
  rw [answer_eq, ← generator.reviewAndRun_single .toUnit true source block { source }]
  rcases generator.reviewAndRun .toUnit true ⟨source, [block]⟩ { source } with
    ⟨_ | ⟨warnings, report⟩, unit, log⟩ <;> rfl

/-- One block that goes to a file. -/
theorem generateFiles_single [WorkingDirectory] (source : Json) (block : Block)
    (directory : Path) (tree : FileTree) (log : Log) :
    ((generator.generateFiles ⟨source, [block]⟩ directory tree).run log).1.1 =
      match (generator.single (.toDirectory generator directory source) source block
          { tree }).1 with
      | .error cause => .error (.interrupted cause)
      | .ok (warnings, report) => .ok { code := "", warnings, blockCount := 1, report } := by
  rw [← generator.reviewAndRun_single (.toDirectory generator directory source) false source block]
  unfold generateFiles
  rcases ran : generator.reviewAndRun (.toDirectory generator directory source) false
    ⟨source, [block]⟩ { tree } with ⟨_ | ⟨warnings, report⟩, after, records⟩
  all_goals
    simp only [ran]
    rfl

/-! ### One block -/

variable {directory : Path} {source : Json} {tree : FileTree} {symbol : String} {start : Pass}

theorem deliver_toUnit (block : Block) (start : Pass) (unit : DeclarationUnit) :
    generator.deliver .toUnit block start unit =
      match (generator.emission block).outcome start with
      | (.error fault, pass) => (.ok (.failed (.pass fault)), pass.warnings, unit)
      | (.ok nested, pass) => (.ok (.generated nested), pass.warnings, unit.commit pass.sink) :=
  rfl

/-- Where a file can be created, nothing is in the way of its text once it is open. -/
theorem obstacle?_of_accepts [WorkingDirectory]
    (accepts : tree.Accepts (blockPath directory symbol)) :
    ∃ output opened, OutputFile.create tree (blockPath directory symbol) = (.ok output, opened) ∧
      opened.obstacle? (blockPath directory symbol) = none := by
  obtain ⟨output, opened, created, header, sink, after, committed⟩ := accepts
  obtain ⟨below, opens⟩ := OutputFile.opens_create created
  refine ⟨output, opened, created, ?_⟩
  have taken : (output.commit (.ok header) sink opened).1 = _ :=
    opens.fst_commit (place_ne_temporary opens.destination opens.beside)
  rw [committed] at taken
  cases blocked : opened.obstacle? (blockPath directory symbol) with
  | none => rfl
  | some fault =>
    rw [blocked] at taken
    cases whole : OutputFile.wholeText (.ok header) sink <;> simp [whole] at taken

/-- The header of the file of a generated block is rendered. -/
theorem exists_blockHeader (builtin : generator.templates = .builtin) {reserved : List String}
    {nested : Nat} {pass : Pass} (started : Pass.start generator block reserved = .ok start)
    (emitted : (generator.emission block).outcome start = (.ok nested, pass)) (source : Json)
    (symbol : String) :
    ∃ header, generator.fileHeader (.string (Naming.packageOfSymbol symbol)) pass.sink.imports
        source (some block.info) = .ok header ∧
      generator.blockHeader source block symbol pass.sink.imports = .ok header := by
  obtain ⟨_, _, -, progress, -⟩ := progress_emission builtin started emitted
  obtain ⟨header, rendered, -⟩ := exists_fileHeader builtin progress.imports
    (.string (Naming.packageOfSymbol symbol)) source (some block.info)
  exact ⟨header, rendered, by rw [blockHeader, rendered]; rfl⟩

/-- The text of the file of a block, from its pass. -/
theorem blockText_of_emitted {symbols : List String} {nested : Nat} {pass : Pass} {header : String}
    (named : generator.blockSymbols ⟨source, [block]⟩ = .ok symbols)
    (started : Pass.start generator block symbols = .ok start)
    (emitted : (generator.emission block).outcome start = (.ok nested, pass))
    (rendered : generator.fileHeader (.string (Naming.packageOfSymbol start.scope.symbol))
      pass.sink.imports source (some block.info) = .ok header) :
    generator.blockText ⟨source, [block]⟩ block =
      some (OutputFile.content header pass.sink.text) := by
  simp only [blockText, named, started, emitted, rendered, Except.toOption, Option.bind_eq_bind,
    Option.bind_some, Option.pure_def]

/-- The result of a block whose file cannot be encoded. -/
def unencodableResult (name : String) (fault : Text.EncodingFault) : BlockResult :=
  .failed (.sink (.uncommitted name (.file (.unencodable fault))))

/-- A block comes to the same in a unit and in a file that can be created, unless it is generated
and the text of its file cannot be encoded. -/
theorem comesTo_modes [WorkingDirectory] (builtin : generator.templates = .builtin)
    (spelt : generator.baseSymbol block.info = .ok symbol)
    (accepts : tree.Accepts (blockPath directory symbol)) {symbols : List String}
    (named : generator.blockSymbols ⟨source, [block]⟩ = .ok symbols) (unit : DeclarationUnit) :
    let whole := generator.comesTo .toUnit block symbols unit
    let file := generator.comesTo (.toDirectory generator directory source) block symbols { tree }
    file.2.1 = whole.2.1 ∧ (file.1 = whole.1 ∨ ∃ nested text fault,
      whole.1 = .ok (.generated nested) ∧
        generator.blockText ⟨source, [block]⟩ block = some text ∧
        Text.encodingFault? text = some fault ∧
        file.1 = .ok (unencodableResult block.name fault)) := by
  simp only [comesTo]
  cases prepared : generator.prepare block symbols with
  | error fault => exact ⟨rfl, .inl rfl⟩
  | ok start? =>
    cases start? with
    | none => exact ⟨rfl, .inl rfl⟩
    | some start =>
      obtain ⟨-, started⟩ := prepare_eq_some.mp prepared
      have own := symbol_of_start started spelt
      obtain ⟨output, opened, created, free⟩ := obstacle?_of_accepts accepts
      rw [← own] at created free
      obtain ⟨warnings, result⟩ : _ ∧ (generator.deliver (.toDirectory generator directory source)
          block start { tree }).1 = _ :=
        deliver_of_created rfl created
      simp only [deliver_toUnit, warnings, result]
      rcases emitted : (generator.emission block).outcome start with ⟨fault | nested, pass⟩
      · exact ⟨rfl, .inl rfl⟩
      · -- the file has a header and nothing is in its way, so it is refused for its text alone
        obtain ⟨header, made, rendered⟩ :=
          exists_blockHeader builtin started emitted source start.scope.symbol
        have text := blockText_of_emitted named started emitted made
        have called : pass.sink.blockName = block.name := blockName_of_runs builtin started emitted
        simp only [rendered, free, OutputFile.wholeText, bind, Except.bind]
        cases encoded : Text.encodingFault? (OutputFile.content header pass.sink.text) with
        | none => exact ⟨trivial, .inl rfl⟩
        | some fault =>
          refine ⟨trivial, .inr ⟨nested, _, fault, rfl, text, encoded, ?_⟩⟩
          rw [called]
          rfl

/-- The notice of a description of one block is that of the block. -/
theorem noticeLines_single_block (source : Json) (block : Block) :
    generator.noticeLines source ((Schema.metadataBlock? ⟨source, [block]⟩).map (·.info)) =
      generator.noticeLines source (some block.info) := by
  cases carries : block.info.hasMetadata with
  | true => simp [Schema.metadataBlock?, carries]
  | false =>
    have none : block.info.version = "" ∧ block.info.repoUrl = "" ∧ block.info.websiteUrl = "" := by
      simpa [Api.Info.hasMetadata, and_assoc] using carries
    simp [Schema.metadataBlock?, carries, noticeLines, none]

/-- The text of a unit of one section is that of a file with this section, where the headers are
made of the same. -/
theorem renderUnit_commit {sink : Sink} (only : generator.HostOnly sink.imports) (source : Json)
    (metadata : Option Api.Info) :
    generator.renderUnit (DeclarationUnit.commit { source } sink) metadata =
      (generator.fileHeader generator.settings.packageName sink.imports source metadata).map
        fun header => OutputFile.content header sink.text := by
  have imports : Json.unite [] sink.imports = sink.imports := by
    rcases only with none | one
    · rw [none]
      rfl
    · rw [one]
      rfl
  have body : (DeclarationUnit.commit { source } sink).body =
      String.ofList (Text.trimNewlines sink.text.toList) := by
    by_cases empty : sink.text = ""
    · simp only [DeclarationUnit.body, DeclarationUnit.commit, empty]
      rfl
    · simp [DeclarationUnit.body, DeclarationUnit.commit, empty]
  rw [renderUnit, body]
  simp only [DeclarationUnit.commit, imports]
  cases generator.fileHeader generator.settings.packageName sink.imports source metadata <;> rfl

/-- The code of a unit that one block went to: that of its file, in the final layout, where the unit
is named as the package of the block. -/
theorem unitCode_single (builtin : generator.templates = .builtin)
    (spelt : generator.baseSymbol block.info = .ok symbol)
    (package : generator.settings.packageName = .string (Naming.packageOfSymbol symbol))
    {symbols : List String} (named : generator.blockSymbols ⟨source, [block]⟩ = .ok symbols) :
    let came := generator.comesTo .toUnit block symbols { source }
    ∃ code, generator.unitCode ⟨source, [block]⟩ came.2.2 = .ok code ∧
      ∀ nested, came.1 = .ok (.generated nested) →
        ∃ text, generator.blockText ⟨source, [block]⟩ block = some text ∧
          code = Text.tidy text := by
  have empty : generator.unitCode ⟨source, [block]⟩ { source } = .ok "" := rfl
  simp only [comesTo]
  cases prepared : generator.prepare block symbols with
  | error fault => exact ⟨"", empty, fun _ same => by cases same⟩
  | ok start? =>
    cases start? with
    | none => exact ⟨"", empty, fun _ same => by cases same⟩
    | some start =>
      obtain ⟨-, started⟩ := prepare_eq_some.mp prepared
      have own := symbol_of_start started spelt
      simp only [deliver_toUnit]
      rcases emitted : (generator.emission block).outcome start with ⟨fault | nested, pass⟩
      · exact ⟨"", empty, fun _ same => by cases same⟩
      · obtain ⟨_, _, -, progress, -⟩ := progress_emission builtin started emitted
        obtain ⟨header, rendered, -⟩ := exists_blockHeader builtin started emitted source symbol
        refine ⟨Text.tidy (OutputFile.content header pass.sink.text), ?_, fun _ _ =>
          ⟨OutputFile.content header pass.sink.text, ?_, rfl⟩⟩
        · have text : generator.renderUnit (DeclarationUnit.commit { source } pass.sink)
              ((Schema.metadataBlock? ⟨source, [block]⟩).map (·.info)) =
              .ok (OutputFile.content header pass.sink.text) := by
            rw [renderUnit_commit progress.imports, package, fileHeader,
              noticeLines_single_block, ← fileHeader, rendered]
            rfl
          have some : (DeclarationUnit.commit { source } pass.sink).sections.isEmpty = false := rfl
          simp only [unitCode, some, Bool.false_eq_true, if_false, text]
          rfl
        · exact blockText_of_emitted named started emitted (own ▸ rendered)

/-! ### The two ways of output -/

/-- Answers for one block that agree: both are errors of one cause, or they report the same, and
the code of the block, if it is generated, is the text of its file in the final layout. -/
inductive ModesAgree [WorkingDirectory] (tree : FileTree) (path : Path) :
    Except GenerationFault Generation → Except GenerationFault Generation → Prop where
  /-- There is no report. -/
  | error (fault : GenerationFault) : ModesAgree tree path (.error fault) (.error fault)
  /-- There are reports. -/
  | ok {whole file : Generation} : file.report = whole.report → file.warnings = whole.warnings →
      file.blockCount = whole.blockCount →
      ((∃ outcome ∈ whole.report.outcomes, outcome.result.isGenerated = true) →
        ∃ text, tree.at? path.place = some (.file text) ∧ tree.read path = .ok text ∧
          whole.code = Text.tidy text) →
      ModesAgree tree path (.ok whole) (.ok file)

/-- Answers for one block that part: it is generated as a text, but its file cannot be encoded, and
it is reported as failed for this reason. All else that is reported is the same. -/
def ModesPart (generator : Generator) (source : Json) (block : Block)
    (whole file : Except GenerationFault Generation) : Prop :=
  ∃ generation nested text fault, whole = .ok generation ∧
    generation.report.outcomes = [⟨block.name, .generated nested⟩] ∧
    generator.blockText ⟨source, [block]⟩ block = some text ∧
    Text.encodingFault? text = some fault ∧
    file = .ok { generation with
      code := "", report := { generation.report with
        outcomes := [⟨block.name, unencodableResult block.name fault⟩] } }

/-- A description of one block, generated as one text and into a directory in which the file of the
block can be created, under settings that name the package of the block. Both answers are errors of
one cause, or both report the same outcome and the same warnings; and if the block is generated, the
text is that of the file in the final layout. It is different only where the text of the file cannot
be encoded: then the block is generated as a text, and its file fails. -/
theorem single_block_modes [WorkingDirectory] {settings : Settings}
    (configured : Generator.ofSettings settings = .ok generator) (source : Json) (block : Block)
    {symbol : String} (spelt : generator.baseSymbol block.info = .ok symbol)
    (package : settings.packageName = .string (Naming.packageOfSymbol symbol)) (directory : Path)
    (tree : FileTree) (accepts : tree.Accepts (blockPath directory symbol)) (log : Log) :
    let whole := generator.answer ⟨source, [block]⟩
    let files := ((generator.generateFiles ⟨source, [block]⟩ directory tree).run log).1
    ModesAgree files.2 (blockPath directory symbol) whole files.1 ∨
      generator.ModesPart source block whole files.1 := by
  intro whole files
  have builtin := templates_ofSettings configured
  rw [← settings_ofSettings configured] at package
  have written : files.1 = _ := generateFiles_single source block directory tree log
  have filed {generation : Generation} (reported : files.1 = .ok generation) :=
    read_of_generateFiles reported
  have answered : whole = _ := answer_single source block
  simp only [single] at written answered
  -- a fault of the review or of the names comes before any destination, so it is the same in both
  cases reviewed : generator.review ⟨source, [block]⟩ with
  | error fault =>
    simp only [reviewed] at written answered
    rw [written, answered]
    exact .inl (.error _)
  | ok remarks =>
    cases named : generator.blockSymbols ⟨source, [block]⟩ with
    | error fault =>
      simp only [reviewed, named] at written answered
      rw [written, answered]
      exact .inl (.error _)
    | ok symbols =>
      obtain ⟨warnings, modes⟩ : (generator.comesTo (.toDirectory generator directory source)
          block symbols { tree }).2.1 = _ ∧ _ :=
        comesTo_modes builtin spelt accepts named { source }
      obtain ⟨code, coded, text⟩ := unitCode_single builtin spelt package named
      simp only [reviewed, named, warnings] at written answered
      rcases came : generator.comesTo .toUnit block symbols { source } with
        ⟨result, remarked, unit⟩
      rw [came] at written answered coded text modes
      rcases modes with same | ⟨nested, content, fault, made, layout, encoded, failed⟩
      · -- the block comes to the same in its file, so both answers are built from one outcome
        rw [same] at written
        cases result with
        | error cause =>
          simp only [Except.map] at written answered
          rw [written, answered]
          exact .inl (.error _)
        | ok result =>
          simp only [Except.map, coded] at written answered
          rw [written, answered]
          refine .inl (.ok rfl rfl rfl ?_)
          rintro ⟨_, member, generated⟩
          cases List.mem_singleton.mp member
          obtain ⟨nested, rfl⟩ : ∃ nested, result = .generated nested := by
            cases result with
            | generated nested => exact ⟨nested, rfl⟩
            | skipped | failed => cases generated
          obtain ⟨content, made, layout⟩ := text nested rfl
          cases filed written with
          | cons first _ =>
            obtain ⟨path, other, placed, made', found, read⟩ := first.2 rfl
            obtain ⟨own, same, rfl⟩ := outputPath_eq_ok.mp placed
            cases same.symm.trans spelt
            cases made'.symm.trans made
            exact ⟨content, found, read, layout⟩
      · dsimp only at made
        rw [made] at answered
        rw [failed] at written
        simp only [Except.map, coded] at written answered
        exact .inr ⟨_, nested, content, fault, answered, rfl, layout, encoded, written⟩

/-- A block with a version and a description. -/
def versionedSample : Block :=
  { info :=
      { name := "a", rawType := .single "Object", version := "1.0", description := "A block." } }

/-- Settings that name the package of this block. -/
def packageSettings : Settings := { packageName := .string "a" }

end Generator

end HostBindings

namespace HostBindings.Generator

open Api (Block)

attribute [local instance] WorkingDirectory.root

theorem accepts_sample : ({} : FileTree).Accepts (blockPath (Path.ofString "out") "A") := by
  have evaluated : (match OutputFile.create {} (blockPath (Path.ofString "out") "A") with
      | (.ok output, opened) => (output.commit (.ok "") { blockName := "a" } opened).1.isOk
      | (.error _, _) => false) = true := by
    decide +kernel
  rcases created : OutputFile.create {} (blockPath (Path.ofString "out") "A") with
    ⟨fault | output, opened⟩
  all_goals simp only [created] at evaluated
  · cases evaluated
  · rcases committed : output.commit (.ok "") { blockName := "a" } opened with ⟨error | _, after⟩
    · simp [committed, Except.isOk, Except.toBool] at evaluated
    · exact ⟨output, opened, created, "", _, after, committed⟩

theorem single_block_modes_sample :
    ∃ generator generation, Generator.ofSettings packageSettings = .ok generator ∧
      generator.baseSymbol versionedSample.info = .ok "A" ∧
      packageSettings.packageName = .string (Naming.packageOfSymbol "A") ∧
      generator.answer ⟨.string "s.json", [versionedSample]⟩ = .ok generation ∧
      (∃ outcome ∈ generation.report.outcomes, outcome.result.isGenerated = true) ∧
      let files := ((generator.generateFiles ⟨.string "s.json", [versionedSample]⟩
        (Path.ofString "out") {}).run []).1
      ModesAgree files.2 (blockPath (Path.ofString "out") "A") (.ok generation) files.1 := by
  have evaluated : (Generator.ofSettings packageSettings).toOption.any (fun generator =>
      generator.baseSymbol versionedSample.info = .ok "A" ∧
        (generator.blockText ⟨.string "s.json", [versionedSample]⟩ versionedSample).all
          (fun text => Text.encodingFault? text = none) ∧
        (generator.answer ⟨.string "s.json", [versionedSample]⟩).toOption.any fun generation =>
          generation.report.outcomes.any (·.result.isGenerated)) = true := by
    decide +kernel
  obtain ⟨generator, made, settled⟩ := Option.any_eq_true _ _ |>.mp evaluated
  obtain ⟨spelt, encodable, answered⟩ := of_decide_eq_true settled
  obtain ⟨generation, answered, generated⟩ := Option.any_eq_true _ _ |>.mp answered
  have configured := toOption_eq_some_iff.mp made
  have package : packageSettings.packageName = .string (Naming.packageOfSymbol "A") := by
    decide +kernel
  have modes := single_block_modes configured (.string "s.json") versionedSample spelt package
    (Path.ofString "out") {} accepts_sample []
  rw [toOption_eq_some_iff.mp answered] at modes
  rcases modes with agree | ⟨_, _, text, fault, -, -, made, encoded, -⟩
  · exact ⟨generator, generation, configured, spelt, package, toOption_eq_some_iff.mp answered,
      List.any_eq_true.mp generated, agree⟩
  · rw [made] at encodable
    simp [encoded] at encodable

/-- A block with half of a surrogate pair in its description. -/
def halfSample : Block :=
  { info :=
      { name := "a", rawType := .single "Object",
        description := String.ofList ('x' :: Text.half 0xD800 ++ ['y']) } }

/-- The two ways of output do not always agree: a text that cannot be encoded is generated, but not
written. -/
theorem exists_unwritten_half :
    ¬ ∀ (settings : Settings) (generator : Generator),
      Generator.ofSettings settings = .ok generator →
      ∀ (source : Json) (block : Block) (symbol : String),
      generator.baseSymbol block.info = .ok symbol →
      settings.packageName = .string (Naming.packageOfSymbol symbol) →
      ∀ (directory : Path) (tree : FileTree), tree.Accepts (blockPath directory symbol) →
        let files := ((generator.generateFiles ⟨source, [block]⟩ directory tree).run []).1
        ModesAgree files.2 (blockPath directory symbol) (generator.answer ⟨source, [block]⟩)
          files.1 := by
  intro modes
  have evaluated : (Generator.ofSettings packageSettings).toOption.any (fun generator =>
      generator.baseSymbol halfSample.info = .ok "A" ∧
        (generator.answer ⟨.string "s.json", [halfSample]⟩).toOption.any (fun generation =>
          generation.report.outcomes.all (·.result.isGenerated)) ∧
        ((generator.generateFiles ⟨.string "s.json", [halfSample]⟩ (Path.ofString "out")
          {}).run []).1.1.toOption.any fun generation =>
            generation.report.outcomes.any (!·.result.isGenerated)) = true := by
    decide +kernel
  obtain ⟨generator, made, settled⟩ := Option.any_eq_true _ _ |>.mp evaluated
  obtain ⟨spelt, answered, failed⟩ := of_decide_eq_true settled
  have agree := modes _ generator (toOption_eq_some_iff.mp made) (.string "s.json") halfSample "A"
    spelt (by decide +kernel) (Path.ofString "out") {} accepts_sample
  dsimp only at agree
  generalize generator.answer ⟨.string "s.json", [halfSample]⟩ = whole at agree answered
  generalize ((generator.generateFiles ⟨.string "s.json", [halfSample]⟩ (Path.ofString "out")
    {}).run []).1 = files at agree failed
  obtain ⟨answer, tree⟩ := files
  cases agree with
  | error => cases answered
  | @ok whole file same =>
    have generated : ∀ outcome ∈ whole.report.outcomes, outcome.result.isGenerated = true := by
      simpa [Except.toOption] using answered
    obtain ⟨outcome, member, other⟩ :
        ∃ outcome ∈ whole.report.outcomes, outcome.result.isGenerated = false := by
      simpa [Except.toOption, same] using failed
    rw [generated outcome member] at other
    cases other

end HostBindings.Generator
