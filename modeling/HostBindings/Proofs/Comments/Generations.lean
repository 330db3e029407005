import HostBindings.Proofs.Comments.Bare
import HostBindings.Proofs.Comments.Units
import HostBindings.Proofs.Runs.Ends
import HostBindings.Proofs.Runs.Nested

/-!
# Comments and code

What a generation shows besides its comments is a matter of the review, of the outcomes and warnings
of the run, and of the declarations as a view shows them. So it is the same whether comments are
written or not, and the lines of code are the same whatever the comments say, as long as the texts
that become comments as they are have no line feeds.

## Main definitions

* `Generation.bare` — what a generation shows besides its comments

## Main results

* `Generator.bare_answer` — where that comes from
* `Generator.comments_change_no_code` — comments may be switched on and off
* `Generator.commentary_adds_no_code` — the commentary may be anything
-/

namespace HostBindings

open Api (Block Info Schema)
open Text (codeLines)

/-! ### Symbols -/

namespace Naming

/-- Joined words have no line feeds. -/
theorem lineFeed_not_mem_joinWords (text : List Char) : '\n' ∉ joinWords text := by
  intro member
  have word := (List.mem_filter.mp member).2
  exact absurd word (by decide)

/-- A symbol made of a single line is one, if what mends it is. -/
theorem Normalizer.isSingle_finish {normalizer : Normalizer} {chars : List Char}
    (single : '\n' ∉ chars) (empty : Api.isSingle normalizer.emptyName = true)
    (lead : Api.isSingle normalizer.digitLead = true) :
    Api.isSingle (normalizer.finish chars) = true := by
  rw [Api.isSingle_iff] at empty lead ⊢
  unfold finish
  split
  · exact empty
  · split
    · simpa [lead] using single
    · simpa using single

variable {extra : List LooseRule} {suffix : Json}

/-- What the tables with corrections make of joined words, a normalizer makes. -/
theorem Tables.finish_ofCorrections (chars : List Char) :
    (Tables.ofCorrections extra suffix).finish chars = .string (Normalizer.finish {} chars) := by
  cases chars with
  | nil => rfl
  | cons c rest =>
    by_cases digit : Text.isDigit c <;>
      simp [finish, Normalizer.finish, digit, ofCorrections]

/-- With corrections and a module suffix that is a single line, every symbol is a single line. -/
theorem isSingle_baseSymbol (single : ∀ text, suffix = .string text → Api.isSingle text = true)
    {info : Info} {value : Json}
    (spelt : (Scheme.ofTables (.ofCorrections extra suffix)).baseSymbol info = .ok value) :
    Api.isSingle value.text = true := by
  have append {first second : String} (one : Api.isSingle first = true)
      (two : Api.isSingle second = true) : Api.isSingle (first ++ second) = true := by
    rw [Api.isSingle_iff] at one two ⊢
    simp [one, two]
  have finished {normalizer : Normalizer} (text : List Char)
      (empty : normalizer.emptyName = "Obj") (lead : normalizer.digitLead = "X") :
      Api.isSingle (normalizer.finish (joinWords text)) = true :=
    Normalizer.isSingle_finish (lineFeed_not_mem_joinWords text) (empty ▸ rfl) (lead ▸ rfl)
  -- the tables are texts, or the symbol is computed on values and is a text all the same
  cases proper : (Tables.ofCorrections extra suffix).normalizer? with
  | some normalizer =>
    simp only [Scheme.ofTables, proper, Scheme.baseSymbol, Except.ok.injEq] at spelt
    simp only [Tables.normalizer?, Tables.ofCorrections, Json.string?, Option.bind_eq_bind,
      Option.bind_eq_some_iff, Option.pure_def, Option.some.injEq, exists_eq_left'] at proper
    obtain ⟨separators, -, corrections, -, text, given, rfl⟩ := proper
    have known : Api.isSingle text = true := by
      split at given
      · exact Option.some.inj given ▸ single _ rfl
      · cases given
    rw [← spelt, Json.text_string, Normalizer.baseSymbol]
    split
    · exact append (finished _ rfl rfl) known
    · exact finished _ rfl rfl
  | none =>
    simp only [Scheme.ofTables, proper, Scheme.baseSymbol, Tables.symbol, bind_eq_ok_iff,
      Tables.finish_ofCorrections, pure, Except.pure, Except.ok.injEq] at spelt
    obtain ⟨_, ⟨text, -, rfl⟩, spelt⟩ := spelt
    have own : Api.isSingle (Normalizer.finish {} (joinWords text)) = true := finished _ rfl rfl
    split at spelt
    · -- a suffix that is no text cannot stand behind the symbol
      cases suffix with
      | string text =>
        cases spelt
        exact append own (single text rfl)
      | _ => cases spelt
    · rw [← Except.ok.inj spelt, Json.text_string]
      exact own

end Naming

/-- What a generation shows besides its comments: the lines of code, and all but the text. -/
def Generation.bare (generation : Generation) : List (List Char) × Generation :=
  (codeLines generation.code, { generation with code := "" })

namespace Generator

variable {generator : Generator} {view : Code.View} {schema schema' : Schema}

/-! ### Generations -/

/-- A report is that of its description. -/
theorem source_of_run {report : RunReport} {start after : RunState DeclarationUnit}
    (ran : (generator.run .toUnit true schema).outcome start = (.ok report, after)) :
    report.source = schema.source := by
  rw [run_eq, outcome_runThrough] at ran
  split at ran
  · cases ran
  · split at ran
    · cases ran
    · cases ran
      rfl

/-- What a generation shows besides its comments comes from the review, from the outcomes and
warnings of the run, and from what the view shows of the unit. -/
theorem bare_answer (generator : Generator) (builtin : generator.templates = .builtin)
    (sees : generator.SeesCode view) (single : schema.isSingle = true) :
    (generator.answer schema).map Generation.bare =
      if schema.blocks.isEmpty then .error (.noBlocks schema.source.text)
      else
        match generator.review schema, shown ((generator.run .toUnit true schema).outcome
          { destination := { source := schema.source } }) with
        | .error fault, _ => .error (.interrupted (.setting fault))
        | .ok _, .error cause => .error (.interrupted cause)
        | .ok remarks, .ok (outcomes, warnings) =>
          .ok (linesThrough view generator.settings.packageName (generator.unitOf schema),
            { code := "", warnings := remarks.map Remark.message ++ warnings
              blockCount := schema.blocks.length
              report := { source := schema.source, outcomes, warnings } }) := by
  cases empty : schema.blocks.isEmpty with
  | true =>
    rw [answer_eq, empty]
    rfl
  | false =>
    cases reviewed : generator.review schema with
    | error fault =>
      rw [answer_eq, empty, reviewAndRun_eq, reviewed]
      rfl
    | ok remarks =>
      rcases ran : (generator.run .toUnit true schema).outcome
        { destination := { source := schema.source } } with ⟨cause | report, state⟩
      · rw [answer_eq, empty, reviewAndRun_eq, reviewed, ran]
        rfl
      · -- only here there is code, and its lines are found through the view
        obtain ⟨-, sections⟩ := unitSections_run builtin ran
        obtain ⟨code, coded, lines⟩ :=
          codeLines_through builtin sees single (generatedBlocks_subset _ _) sections
        rw [answer_eq_ok (by simpa using empty) reviewed ran coded]
        have source := source_of_run ran
        simp only [Except.map, Generation.bare, lines, shown]
        obtain ⟨_, outcomes, warnings⟩ := report
        cases source
        rfl

/-- The lines of code that are generated are those that the view shows of the unit. -/
theorem codeLines_answer (builtin : generator.templates = .builtin)
    (sees : generator.SeesCode view) (single : schema.isSingle = true) {generation : Generation}
    (answered : generator.answer schema = .ok generation) :
    codeLines generation.code =
      linesThrough view generator.settings.packageName (generator.unitOf schema) := by
  have bare := bare_answer generator builtin sees single
  rw [answered] at bare
  split at bare
  · cases bare
  · split at bare
    · cases bare
    · cases bare
    · exact congrArg Prod.fst (Except.ok.inj bare)

/-- The units that alike descriptions go to look the same, if a view shows no difference between the
generators. -/
theorem alike_unitOf {value : Json} (builtin : generator.templates = .builtin)
    (hides : generator.Hides value view)
    (blocks : List.Forall₂ Block.Alike schema.blocks schema'.blocks) :
    shown ((generator.run .toUnit true schema).outcome
        { destination := { source := schema.source } }) =
      shown (((generator.commenting value).run .toUnit true schema').outcome
        { destination := { source := schema'.source } }) ∧
    (generator.unitOf schema).Alike view ((generator.commenting value).unitOf schema') :=
  run_alike builtin hides true blocks ⟨⟨.nil, rfl⟩, rfl, rfl, rfl⟩

/-! ### Comments switched on and off -/

/-- Settings that differ in nothing but whether comments are written make generators that differ in
nothing else. -/
theorem ofSettings_commenting {settings : Settings} (value : Json)
    (configured : ofSettings settings = .ok generator) :
    ofSettings { settings with addComments := value } = .ok (generator.commenting value) := by
  obtain ⟨extra, types, read, typed, rfl⟩ := ofSettings_eq_ok.mp configured
  exact ofSettings_eq_ok.mpr ⟨extra, types, read, typed, rfl⟩

/-- The review does not depend on whether comments are written. -/
theorem review_commenting (generator : Generator) (value : Json) (schema : Schema) :
    (generator.commenting value).review schema = generator.review schema :=
  review_congr (generator.commenting value) generator (fun _ => rfl) rfl rfl schema

/-- Comments do not change the code. Of a description in which no platform, no package metadata and
no source has a line feed, with a module suffix that has none either, the same is generated with
comments and without: the same warnings, outcomes, counts and imports, and texts with the same lines
of code, or nothing for the same reason. -/
theorem comments_change_no_code {settings : Settings} (value : Json)
    (configured : ofSettings settings = .ok generator) (single : schema.isSingle = true)
    (suffix : ∀ text, settings.moduleSuffix = .string text → Api.isSingle text = true) :
    ofSettings { settings with addComments := value } = .ok (generator.commenting value) ∧
      (generator.answer schema).map Generation.bare =
        ((generator.commenting value).answer schema).map Generation.bare ∧
      (generator.unitOf schema).imports = ((generator.commenting value).unitOf schema).imports := by
  have builtin := templates_ofSettings configured
  have symbols : ∀ info symbol, generator.baseSymbol info = .ok symbol →
      Api.isSingle symbol = true := by
    intro info symbol spelt
    obtain ⟨extra, types, -, -, rfl⟩ := ofSettings_eq_ok.mp configured
    obtain ⟨value, made, rfl⟩ := map_eq_ok_iff.mp spelt
    exact Naming.isSingle_baseSymbol suffix made
  have blocks : List.Forall₂ Block.Alike schema.blocks schema.blocks :=
    List.forall₂_same.mpr fun block _ => .refl block
  obtain ⟨outcomes, units⟩ := alike_unitOf builtin (hides_code generator value) blocks
  have lines := units.linesThrough_eq generator.settings.packageName
  refine ⟨ofSettings_commenting value configured, ?_, units.imports⟩
  rw [bare_answer generator builtin (seesCode_code symbols) single,
    bare_answer (generator.commenting value) builtin (seesCode_code symbols) single, outcomes,
    lines, review_commenting]
  rfl

/-- A module with an event, of which something is said in two lines. -/
def spokenSample : Schema where
  source := .string "app.json"
  blocks :=
    [{ info :=
         { name := "a", rawType := .single "Module", description := "Says\nfunc init() \x7b\x7d"
           platforms := ["macOS"], version := "1.0" }
       events := [{ info := { name := "x" } }] }]

/-- Whether a description is generated, and the texts of its sections: as it is, without comments,
and without commentary. -/
def sectionTexts (settings : Settings) (schema : Schema) :
    Option (Bool × List String × List String × List String) := do
  let generator ← (ofSettings settings).toOption
  let texts := fun (unit : DeclarationUnit) => unit.sections.map (·.text)
  return ((generator.answer schema).isOk, texts (generator.unitOf schema),
    texts ((generator.commenting (.bool false)).unitOf schema),
    texts (generator.unitOf schema.bare))

theorem exists_spokenSample :
    ∃ generator generation, ofSettings {} = .ok generator ∧
      generator.answer spokenSample = .ok generation ∧
      (generator.commenting (.bool false)).unitOf spokenSample ≠ generator.unitOf spokenSample ∧
      (generator.unitOf spokenSample.bare).sections ≠ (generator.unitOf spokenSample).sections := by
  have evaluated : (sectionTexts {} spokenSample).map (fun texts =>
      (texts.1, decide (texts.2.2.1 = texts.2.1), decide (texts.2.2.2 = texts.2.1))) =
        some (true, false, false) := by decide +kernel
  simp only [sectionTexts, Option.bind_eq_bind, Option.map_eq_some_iff, Option.bind_eq_some_iff,
    toOption_eq_some_iff, Option.pure_def, Option.some.injEq, Prod.mk.injEq] at evaluated
  obtain ⟨_, ⟨generator, configured, rfl⟩, ok, silent, bare⟩ := evaluated
  obtain ⟨generation, answered⟩ := isOk_iff.mp ok
  refine ⟨generator, generation, configured, answered, fun same => ?_, fun same => ?_⟩
  · exact of_decide_eq_false silent (congrArg (fun unit => unit.sections.map (·.text)) same)
  · exact of_decide_eq_false bare (congrArg (fun sections => sections.map (·.text)) same)

theorem comments_change_no_code_sample :
    spokenSample.isSingle = true ∧
      ∃ generator generation generation', ofSettings {} = .ok generator ∧
        ofSettings { addComments := .bool false } = .ok (generator.commenting (.bool false)) ∧
        generator.answer spokenSample = .ok generation ∧
        (generator.commenting (.bool false)).answer spokenSample = .ok generation' ∧
        (generator.commenting (.bool false)).unitOf spokenSample ≠ generator.unitOf spokenSample ∧
        generation.bare = generation'.bare := by
  have single : spokenSample.isSingle = true := by decide
  obtain ⟨generator, generation, configured, answered, other, -⟩ := exists_spokenSample
  obtain ⟨silent, same, -⟩ := comments_change_no_code (.bool false) configured single
    (by rintro _ ⟨⟩; decide)
  rw [answered] at same
  obtain ⟨generation', answered', bare⟩ := map_eq_ok_iff.mp same.symm
  exact ⟨single, generator, generation, generation', configured, silent, answered, answered', other,
    bare.symm⟩

/-- Whether a description is generated, and the numbers of lines of code in its unit, with comments
and without. -/
def lineCounts (settings : Settings) (schema : Schema) : Option (Bool × Nat × Nat) := do
  let generator ← (ofSettings settings).toOption
  let count := fun (unit : DeclarationUnit) =>
    (linesThrough .headings settings.packageName unit).length
  return ((generator.answer schema).isOk, count (generator.unitOf schema),
    count ((generator.commenting (.bool false)).unitOf schema))

/-- A module with an event. -/
def emitterSample : Schema where
  source := .string ""
  blocks :=
    [{ info := { name := "a", rawType := .single "Module" }
       events := [{ info := { name := "x" } }] }]

/-- A line feed in the suffix of modules breaks the comment over the constants of events in two, and
the second line is code. -/
theorem exists_comment_that_is_code :
    ¬ ∀ (settings : Settings) (generator : Generator) (value : Json) (schema : Schema),
      ofSettings settings = .ok generator → schema.isSingle = true →
        (generator.answer schema).map Generation.bare =
          ((generator.commenting value).answer schema).map Generation.bare := by
  intro unchanged
  have evaluated : lineCounts { moduleSuffix := .string "\nfoo" } emitterSample =
      some (true, 10, 9) := by decide +kernel
  have single : emitterSample.isSingle = true := by decide
  simp only [lineCounts, Option.bind_eq_bind, Option.bind_eq_some_iff, toOption_eq_some_iff,
    Option.pure_def, Option.some.injEq, Prod.mk.injEq] at evaluated
  obtain ⟨generator, configured, ok, count, count'⟩ := evaluated
  have builtin := templates_ofSettings configured
  have builtin' : (generator.commenting (.bool false)).templates = .builtin := builtin
  have settings := settings_ofSettings configured
  have same := unchanged _ generator (.bool false) emitterSample configured single
  obtain ⟨generation, answered⟩ := isOk_iff.mp ok
  rw [answered] at same
  obtain ⟨generation', answered', bare⟩ := map_eq_ok_iff.mp same.symm
  have lines := codeLines_answer builtin (seesCode_headings _) single answered
  have lines' := codeLines_answer builtin' (seesCode_headings _) single answered'
  -- the comment in two lines makes one line of code more
  have equal : codeLines generation'.code = codeLines generation.code := congrArg Prod.fst bare
  have package : (generator.commenting (.bool false)).settings.packageName =
      generator.settings.packageName := rfl
  rw [lines, lines', package, settings] at equal
  have counts := congrArg List.length equal
  rw [count, count'] at counts
  cases counts

/-! ### Any commentary -/

/-- Alike descriptions are both reviewed, or neither is. -/
theorem exists_review_iff_of_alike (generator : Generator)
    (blocks : List.Forall₂ Block.Alike schema.blocks schema'.blocks) :
    (∃ remarks, generator.review schema = .ok remarks) ↔
      ∃ remarks, generator.review schema' = .ok remarks := by
  have symbols := forall₂_map_eq blocks (f := fun block => generator.baseSymbol block.info)
    (g := fun block => generator.baseSymbol block.info)
    fun alike => baseSymbol_eq generator alike.info.name alike.info.kind
  have spelt (blocks : List Block) :
      (∀ block ∈ blocks, ∃ symbol, generator.baseSymbol block.info = .ok symbol) ↔
        ∀ result ∈ blocks.map fun block => generator.baseSymbol block.info,
          ∃ symbol, result = .ok symbol := by
    rw [List.forall_mem_map]
  rw [exists_review_iff, exists_review_iff, spelt, spelt, symbols]

/-- The lines of code of alike descriptions are the same, if the texts that become comments as they
are have no line feeds. -/
theorem codeLines_alike (builtin : generator.templates = .builtin) (single : schema.isSingle = true)
    (single' : schema'.isSingle = true)
    (blocks : List.Forall₂ Block.Alike schema.blocks schema'.blocks) :
    (generator.answer schema).toOption.map (fun generation => codeLines generation.code) =
      (generator.answer schema').toOption.map fun generation => codeLines generation.code := by
  have lines (schema : Schema) :
      (generator.answer schema).toOption.map (fun generation => codeLines generation.code) =
        ((generator.answer schema).map Generation.bare).toOption.map Prod.fst := by
    cases generator.answer schema <;> rfl
  have sees := generator.seesCode_headings
  obtain ⟨outcomes, units⟩ := alike_unitOf builtin (hides_headings generator) blocks
  have same := units.linesThrough_eq generator.settings.packageName
  have reviewed := generator.exists_review_iff_of_alike blocks
  have still : generator.commenting generator.settings.addComments = generator := rfl
  rw [still] at outcomes same
  rw [lines, lines, bare_answer generator builtin sees single,
    bare_answer generator builtin sees single',
    isEmpty_eq_of_forall₂ blocks, outcomes, same]
  cases empty : schema'.blocks.isEmpty with
  | true => rfl
  | false =>
    -- where neither is reviewed there is no code, and else the rest is the same
    cases found : generator.review schema with
    | error fault =>
      cases found' : generator.review schema' with
      | error fault' => rfl
      | ok remarks => simp [found, found'] at reviewed
    | ok remarks =>
      obtain ⟨remarks', found'⟩ := reviewed.mp ⟨remarks, found⟩
      rw [found']
      cases shown ((generator.run .toUnit true schema').outcome
        { destination := { source := schema'.source } }) <;> rfl

/-- No commentary adds a line of code. -/
theorem commentary_adds_no_code {settings : Settings}
    (configured : ofSettings settings = .ok generator) (single : schema.isSingle = true) :
    (generator.answer schema).toOption.map (fun generation => codeLines generation.code) =
      (generator.answer schema.bare).toOption.map fun generation => codeLines generation.code := by
  refine codeLines_alike (templates_ofSettings configured) single schema.isSingle_bare ?_
  exact Api.forall₂_map_self Block.alike_bare schema.blocks

theorem commentary_adds_no_code_sample :
    spokenSample.isSingle = true ∧
      ∃ generator generation generation', ofSettings {} = .ok generator ∧
        generator.answer spokenSample = .ok generation ∧
        generator.answer spokenSample.bare = .ok generation' ∧
        (generator.unitOf spokenSample.bare).sections ≠ (generator.unitOf spokenSample).sections ∧
        codeLines generation.code = codeLines generation'.code := by
  have single : spokenSample.isSingle = true := by decide
  obtain ⟨generator, generation, configured, answered, -, other⟩ := exists_spokenSample
  have same := commentary_adds_no_code configured single
  rw [answered] at same
  obtain ⟨generation', answered', lines⟩ := Option.map_eq_some_iff.mp same.symm
  exact ⟨single, generator, generation, generation', configured, answered,
    toOption_eq_some_iff.mp answered', other, lines.symm⟩

end Generator

end HostBindings
