import HostBindings.Proofs.Comments.Generations
import HostBindings.Proofs.Layout.Constants
import HostBindings.Proofs.Layout.Generations

/-!
# The constants of events in the code

What a pass writes is read line by line: the constants of the events of its block are there, each
with the name of its event, and nothing else is taken for one. The names of these constants were
claimed, so they are different throughout a unit. Comments can hide a line of code only where a text
with a line feed becomes a comment as it is.

## Main definitions

* `Section.told`, `DeclarationUnit.told` — the constants of events that are declared
* `Generator.EventNames` — their names, between two blocks

## Main results

* `Generator.tells_of_runs` — what a pass writes
* `Generator.told_sublist`, `Generator.stringConstants_of_isSingle` — the code of a unit
* `Generator.EventNames.runBlock`, `Generator.nodup_told_unitOf` — the names of the constants
* `Generator.event_constants_read`
-/

namespace HostBindings

open Api (Block Schema)
open Code (Declaration)
open Layout
open Text (codeLines trimRight)

/-! ### Literals of members -/

namespace Literal

variable {c : Char} {chars : List Char}

theorem mem_dropLineEnd (other : c ≠ '\n') (member : c ∈ chars) : c ∈ dropLineEnd chars := by
  unfold dropLineEnd
  split
  next last =>
    rw [← List.dropLast_append_getLast? '\n' last] at member
    simpa [other] using member
  next => exact member

theorem mem_dropMinus (other : c ≠ '-') (member : c ∈ chars) : c ∈ dropMinus chars := by
  unfold dropMinus
  split
  next => simpa [other] using member
  next => exact member

/-- Literals that fit the type of their tag have no quotation mark. -/
theorem mark_not_mem_of_literalType? {types : TypeSettings} {name : Json} {literals : List String}
    (fit : Generator.literalType? types name literals = some true) :
    ∀ literal ∈ literals, '"' ∉ literal.toList := by
  intro literal there member
  have inside : '"' ∈ dropMinus (dropLineEnd literal.toList) :=
    mem_dropMinus (by decide) (mem_dropLineEnd (by decide) member)
  have digit : ∀ c, Text.isDecimalDigit c = true → c ≠ '"' := by
    rintro c digit rfl
    revert digit
    decide
  rcases Generator.plain_of_literalType? fit literal there with integer | number | truth
  · exact forall_of_isDigits digit integer '"' inside rfl
  · exact forall_of_isDecimal digit (by simp) number '"' inside rfl
  · simp only [isBoolean, Bool.or_eq_true, beq_iff_eq] at truth
    rcases truth with rfl | rfl <;> revert member <;> decide

end Literal

namespace Generator

variable {comments tags : Json} {allocated : List String} {block : Block}

/-! ### Passes -/

theorem rawConstants_of_fieldFor {owner : Api.Info} {node : PropertyNode} {field : Code.Field}
    (names : ∀ name ∈ allocated, isWord name.toList = true)
    (fits : (standard comments tags).FieldFor allocated owner node field) :
    rawConstants ("\t" ++ (field.text ++ field.tag)) = [] := by
  obtain ⟨slot, slotFor, name, type⟩ := fits.slot
  have proper := wellFormed_of_slotFor names slotFor
  refine Code.rawConstants_field ?_ ?_ fits.tag
  · rw [name]
    exact proper.name
  · rw [type]
    exact proper.type

theorem rawConstants_of_methodFor {owner : Api.Info} {node : MethodNode} {field : Code.Field}
    (names : ∀ name ∈ allocated, isWord name.toList = true)
    (fits : (standard comments tags).MethodFor allocated owner node field) :
    rawConstants ("\t" ++ (field.text ++ field.tag)) = [] := by
  obtain ⟨signature, signatureFor, type⟩ := fits.type
  refine Code.rawConstants_field (isWord_of_makes (.base fits.name)) ?_ fits.tag
  rw [type]
  exact wellFormed_of_signatureFor names signatureFor

/-- What is declared for an entity that waits tells no constant of an event. -/
theorem tells_of_declarationFor {pending : Pending} {declaration : Declaration}
    (names : ∀ name ∈ allocated, isWord name.toList = true)
    (own : ∀ name ∈ declaration.names, isWord name.toList = true)
    (fits : (standard comments tags).DeclarationFor allocated pending declaration) :
    declaration.Tells := by
  have word : isWord pending.name.toList = true := by
    apply own
    rw [fits.names]
    exact List.mem_cons_self
  -- the constants of members have a type, and no other line of code reads as a constant
  cases fits with
  | enumeration kind based members =>
    refine Declaration.tells_enumeration word (baseFor_standard based).1 fun constant member => ?_
    obtain ⟨value, there, memberFor⟩ := exists_item_of_mem members member
    have name := own _ (List.mem_cons_of_mem _ (List.mem_map_of_mem member))
    refine Code.rawConstants_member name word ?_
    rw [memberFor.literal]
    split
    next => exact .inl ⟨value.literal, rfl⟩
    next plain =>
      obtain ⟨_, fit⟩ := exists_literalType?_of_baseFor based (by simpa using plain)
      exact .inr (Literal.mark_not_mem_of_literalType? fit _ (List.mem_map_of_mem there))
  | function kind tag signature =>
    exact Declaration.tells_function word (wellFormed_of_signatureFor names signature)
  | composite kind tag handle fields =>
    refine Declaration.tells_composite word (wellFormed_of_handleFor handle) fun field member => ?_
    obtain ⟨node, there, fieldFor⟩ := exists_item_of_mem fields member
    exact rawConstants_of_fieldFor names fieldFor

/-- The structure of a block tells none either. -/
theorem tells_of_structureFor {symbol : String} {notes : List String} {handle : Code.Handle}
    {fields : List Code.Field} (names : ∀ name ∈ allocated, isWord name.toList = true)
    (word : isWord symbol.toList = true)
    (fits : (standard comments tags).StructureFor allocated block (blockProperties block)
      (blockMethods block) handle fields) :
    (Declaration.composite notes symbol handle fields).Tells := by
  have handle := wellFormed_of_handleFor fits.handle
  refine Declaration.tells_composite word handle fun field member => ?_
  obtain ⟨values, calls, rfl, fieldsFor, methodsFor⟩ := fits.fields
  rcases List.mem_append.mp member with value | call
  · obtain ⟨node, -, fieldFor⟩ := exists_item_of_mem fieldsFor value
    exact rawConstants_of_fieldFor names fieldFor
  · obtain ⟨node, -, methodFor⟩ := exists_item_of_mem methodsFor call
    exact rawConstants_of_methodFor names methodFor

/-- What is declared for a block itself tells the constants of its events. -/
theorem tells_of_primaryFor {symbol : String} {primary : List Declaration}
    (names : ∀ name ∈ allocated, isWord name.toList = true)
    (own : ∀ declaration ∈ primary, ∀ name ∈ declaration.names, isWord name.toList = true)
    (fits : (standard comments tags).PrimaryFor allocated block symbol primary) :
    ∀ declaration ∈ primary, declaration.Tells := by
  cases fits with
  | plain none structureFor =>
    have word := own _ List.mem_cons_self symbol List.mem_cons_self
    simpa using tells_of_structureFor names word structureFor
  | @withEvents notes constants handle fields some events structureFor =>
    have word := own _ (List.mem_cons_of_mem _ List.mem_cons_self) symbol List.mem_cons_self
    have told : (Declaration.events notes constants).Tells := by
      refine Declaration.tells_events (fun constant member => ?_) fun constant member => ?_
      · exact own _ List.mem_cons_self _ (List.mem_map_of_mem member)
      · obtain ⟨event, -, eventFor⟩ := exists_item_of_mem events.constants member
        exact ⟨_, eventFor.literal⟩
    simpa using ⟨told, tells_of_structureFor names word structureFor⟩

/-- So does all that a pass writes. -/
theorem tells_of_runs {reserved : List String} {start pass : Pass} {count : Nat}
    (started : Pass.start (standard comments tags) block reserved = .ok start)
    (run : Emit.Runs ((standard comments tags).emission block) start count pass) :
    ∀ declaration ∈ pass.sink.declarations, declaration.Tells := by
  obtain ⟨primary, nested, fits, progress, -⟩ := progress_emission rfl started run
  obtain ⟨given, words⟩ := isWord_of_runs started run
  rw [progress.written] at words ⊢
  intro declaration member
  rcases List.mem_append.mp member with first | later
  · exact tells_of_primaryFor given (fun other there => words other (List.mem_append_left _ there))
      fits declaration first
  · obtain ⟨pending, -, declarationFor⟩ := exists_item_of_mem progress.nested later
    exact tells_of_declarationFor given (words declaration member) declarationFor

end Generator

/-! ### Sections and units -/

/-- The constants of events that a section declares, with what their literals denote. -/
def Section.told (entry : Section) : List (String × List UInt8) :=
  entry.declarations.flatMap (·.told)

/-- So with a unit. -/
def DeclarationUnit.told (unit : DeclarationUnit) : List (String × List UInt8) :=
  unit.sections.flatMap (·.told)

namespace Generator

variable {comments tags : Json} {block : Block} {entry : Section} {generator : Generator}

/-- The constants of events are those that are declared, and each denotes the name of its event. -/
theorem told_events {events : List Api.Event} (notes : List String)
    {constants : List Code.Constant}
    (fits : List.Forall₂ generator.EventFor events constants) :
    (Declaration.events notes constants).told.map (·.1) = constants.map (·.name) ∧
      (Declaration.events notes constants).told.map (·.2) =
        events.map fun event => Literal.bytesOf event.info.name := by
  rw [Declaration.told]
  induction fits with
  | nil => exact ⟨rfl, rfl⟩
  | cons first _ ih =>
    rw [List.filterMap_cons, first.literal, Literal.unquote?_quote]
    exact ⟨congrArg (_ :: ·) ih.1, congrArg (_ :: ·) ih.2⟩

/-- Nested declarations have no constants of events. -/
theorem told_of_nested {allocated : List String} {done : List Pending} {nested : List Declaration}
    (fits : List.Forall₂ (generator.DeclarationFor allocated) done nested) :
    nested.flatMap (·.told) = [] := by
  refine List.flatMap_eq_nil_iff.mpr fun declaration member => ?_
  obtain ⟨pending, -, declarationFor⟩ := exists_item_of_mem fits member
  cases declarationFor <;> rfl

/-- The section of a block tells the names of its events in the host, in order. -/
theorem told_of_sectionOf (sectionOf : generator.SectionOf block entry) :
    entry.told.map (·.2) =
      (blockEvents block).map fun event => Literal.bytesOf event.info.name := by
  obtain ⟨start, pass, wrote⟩ := sectionOf
  obtain ⟨primary, nested, order, fits, nestedFor⟩ := wrote.order
  rw [Section.told, order, List.flatMap_append, told_of_nested nestedFor, List.append_nil]
  cases fits with
  | plain none structureFor => simp [none, Declaration.told]
  | @withEvents notes _ _ _ some events structureFor =>
    simpa [Declaration.told] using (told_events notes events.constants).2

theorem tells_of_sectionOf (sectionOf : (standard comments tags).SectionOf block entry) :
    ∀ declaration ∈ entry.declarations, declaration.Tells := by
  obtain ⟨start, pass, wrote⟩ := sectionOf
  obtain ⟨reserved, started⟩ := wrote.started
  obtain ⟨count, run⟩ := wrote.succeeded
  rw [wrote.declarations]
  exact tells_of_runs started run

/-- The text of a section tells its constants of events, among what may stand in comments. -/
theorem told_sublist_of_sectionOf (sectionOf : (standard comments tags).SectionOf block entry) :
    entry.told.Sublist (rawConstants entry.text) := by
  have tells := tells_of_sectionOf sectionOf
  obtain ⟨start, pass, wrote⟩ := sectionOf
  rw [rawConstants, wrote.text, Code.codeLines_textOf, List.filterMap_flatMap]
  exact List.Sublist.flatMap_right _ fun declaration member => (tells declaration member).sublist

/-- The lines of code of a header tell nothing. -/
theorem rawConstants_clauses {imports : List Json}
    (only : (standard comments tags).HostOnly imports) :
    ((clauses (standard comments tags).settings.packageName imports).filterMap fun line =>
      stringConstant? (trimRight line)) = [] := by
  have package : (standard comments tags).settings.packageName = .string "electron" := rfl
  have host : (standard comments tags).types.hostImport =
      .string "github.com/gopherjs/gopherjs/js" := rfl
  rcases only with rfl | rfl
  · rw [package]
    decide
  · rw [package, host]
    decide +kernel

/-- The code of a unit tells its constants of events, among what may stand in comments. -/
theorem told_sublist {schema : Schema} {source : Json} {done : List Block} {unit : DeclarationUnit}
    (sections : (standard comments tags).UnitSections source done unit) {code : String}
    (coded : (standard comments tags).unitCode schema unit = .ok code) :
    unit.told.Sublist (stringConstants code) := by
  by_cases filled : unit.sections = []
  · rw [DeclarationUnit.told, filled]
    exact List.nil_sublist _
  · obtain ⟨code', coded', lines⟩ := codeLines_unitCode schema rfl sections.imports filled
    cases coded.symm.trans coded'
    rw [stringConstants, lines, filterMap_trimmed, List.filterMap_append, List.filterMap_flatMap]
    refine List.Sublist.trans ?_ (List.sublist_append_right _ _)
    refine List.Sublist.flatMap_right _ fun entry member => ?_
    obtain ⟨block, -, sectionOf⟩ := exists_item_of_mem sections.sections member
    exact told_sublist_of_sectionOf sectionOf

/-- Under the default settings comments are no code, where texts are single lines. -/
theorem seesCode_standard : (standard comments tags).SeesCode .code := by
  refine seesCode_code fun info symbol spelt => ?_
  have word : isWord symbol.toList = true := isWord_of_makes (.base spelt)
  exact Api.isSingle_iff.mpr (isLine_of_isTypeName (isTypeName_of_isWord word)).single

/-- The code of a unit for a description of single lines tells its constants of events and no
others. -/
theorem stringConstants_of_isSingle {schema : Schema} {done : List Block} {unit : DeclarationUnit}
    (single : schema.isSingle = true) (known : done ⊆ schema.blocks)
    (sections : (standard comments tags).UnitSections schema.source done unit) {code : String}
    (coded : (standard comments tags).unitCode schema unit = .ok code) :
    stringConstants code = unit.told := by
  obtain ⟨code', coded', lines⟩ := codeLines_through rfl seesCode_standard single known sections
  cases coded.symm.trans coded'
  rw [stringConstants, lines, linesThrough]
  split
  next empty =>
    rw [DeclarationUnit.told, List.isEmpty_iff.mp empty]
    rfl
  next =>
    rw [filterMap_trimmed, List.filterMap_append, rawConstants_clauses sections.imports,
      List.nil_append, List.filterMap_flatMap, DeclarationUnit.told]
    refine List.flatMap_congr fun entry member => ?_
    obtain ⟨block, -, sectionOf⟩ := exists_item_of_mem sections.sections member
    rw [List.filterMap_flatMap, List.flatMap_map, Section.told]
    exact List.flatMap_congr (tells_of_sectionOf sectionOf)

/-! ### Names of constants -/

/-- The names that a pass gives to the constants of events are some of those that it claims. -/
theorem told_names_of_runs {reserved : List String} {start pass : Pass} {count : Nat}
    (builtin : generator.templates = .builtin)
    (started : Pass.start generator block reserved = .ok start)
    (run : Emit.Runs (generator.emission block) start count pass) :
    ∃ claimed more, pass.scope.names = start.scope.names ++ claimed ∧ claimed.Nodup ∧
      (∀ name ∈ claimed, name ∉ start.scope.names) ∧
      ((pass.sink.declarations.flatMap (·.told)).map (·.1) ++ more).Perm claimed := by
  obtain ⟨primary, nested, fits, progress, empty, -⟩ := progress_emission builtin started run
  obtain ⟨claimed, names, nodup, fresh, perm⟩ := progress.accounts
  rw [empty, List.map_nil, List.append_nil, List.flatMap_append, List.singleton_append] at perm
  rw [progress.written, List.flatMap_append, told_of_nested progress.nested, List.append_nil]
  cases fits with
  | plain none structureFor => exact ⟨claimed, claimed, names, nodup, fresh, .refl _⟩
  | @withEvents notes constants _ _ some events structureFor =>
    -- the symbol of the block stands behind the constants, and everything else is claimed
    refine ⟨claimed, nested.flatMap Declaration.names, names, nodup, fresh, ?_⟩
    have whole : (constants.map Code.Constant.name ++ ([start.scope.symbol] ++ []) ++
        nested.flatMap Declaration.names).Perm (start.scope.symbol :: claimed) := perm
    rw [List.append_nil, List.append_assoc, List.singleton_append] at whole
    have claims := (List.perm_middle.symm.trans whole).cons_inv
    rw [← (told_events notes events.constants).1] at claims
    simpa [Declaration.told] using claims

/-- The names of the constants of events in a unit are given once each, and are taken. -/
structure EventNames (state : RunState DeclarationUnit) : Prop where
  /-- No name is given twice. -/
  nodup : (state.destination.told.map (·.1)).Nodup
  /-- All are taken. -/
  taken : state.destination.told.map (·.1) ⊆ state.reserved

/-- A block keeps them so: what it adds are names that were free. -/
theorem EventNames.runBlock {before after : RunState DeclarationUnit}
    {result : Except Interruption Unit} (builtin : generator.templates = .builtin)
    (names : EventNames before)
    (ended : generator.BlockEnd .toUnit true block before result after) : EventNames after := by
  have kept (unit : after.destination = before.destination)
      (reserved : after.reserved = before.reserved) : EventNames after :=
    ⟨unit ▸ names.nodup, unit ▸ reserved ▸ names.taken⟩
  -- only a generated block writes declarations, and all they tell was claimed
  cases ended with
  | unprepared _ same adds | skipped _ same adds => exact kept same adds.reserved
  | lost _ _ keeps adds | failed _ _ keeps adds => exact kept keeps.unit_eq adds.reserved
  | @generated start pass nested handle middle _ prepared run keeps committed adds =>
    obtain ⟨-, started⟩ := prepare_eq_some.mp prepared
    obtain ⟨claimed, more, grown, nodup, fresh, perm⟩ := told_names_of_runs builtin started run
    have unit : after.destination = before.destination.commit pass.sink := by
      rw [← (Prod.mk.inj committed).2, keeps.unit_eq]
    have told : after.destination.told.map (·.1) = before.destination.told.map (·.1) ++
        (pass.sink.declarations.flatMap (·.told)).map (·.1) := by
      simp [unit, DeclarationUnit.told, DeclarationUnit.commit, Section.told]
    have reserved : after.reserved = start.scope.names ++ claimed := by
      rw [adds.reserved, if_pos rfl, grown]
    have earlier := reserved_subset_start started
    have own : (pass.sink.declarations.flatMap (·.told)).map (·.1) ⊆ claimed :=
      fun name member => perm.subset (List.mem_append_left _ member)
    constructor
    · rw [told]
      refine List.nodup_append.mpr ⟨names.nodup, ?_, ?_⟩
      · exact (perm.nodup_iff.mpr nodup).of_append_left
      · rintro name old _ new rfl
        exact fresh name (own new) (earlier (names.taken old))
    · rw [told, reserved]
      refine List.append_subset.mpr ⟨fun name member => ?_, fun name member => ?_⟩
      · exact List.mem_append_left _ (earlier (names.taken member))
      · exact List.mem_append_right _ (own member)

/-- So the names of the constants of events are different from each other throughout a unit. -/
theorem nodup_told_unitOf (builtin : generator.templates = .builtin) {schema : Schema}
    {report : RunReport} {state : RunState DeclarationUnit}
    (ran : (generator.run .toUnit true schema).outcome
      { destination := { source := schema.source } } = (.ok report, state)) :
    ((generator.unitOf schema).told.map (·.1)).Nodup := by
  rw [unitOf, ran]
  rw [run_eq, outcome_runThrough] at ran
  split at ran
  · cases ran
  next symbols _ =>
    have first : EventNames
        { destination := { source := schema.source }, reserved := symbols } :=
      ⟨List.nodup_nil, List.nil_subset _⟩
    have last := holds_blocks EventNames (fun block (_ : block ∈ schema.blocks) _ names =>
      names.runBlock builtin (blockEnd_runBlock generator .toUnit true block _)) first
    split at ran
    next => cases ran
    next finished =>
      rw [finished] at last
      cases ran
      exact last.nodup

/-! ### The code of a description -/

/-- The constants of sections denote the names of the events of their blocks, in order. -/
theorem told_sections {blocks : List Block} {entries : List Section}
    (sections : List.Forall₂ generator.SectionOf blocks entries) :
    (entries.flatMap (·.told)).map (·.2) =
      (blocks.flatMap blockEvents).map fun event => Literal.bytesOf event.info.name := by
  induction sections with
  | nil => rfl
  | cons first _ ih =>
    rw [List.flatMap_cons, List.flatMap_cons, List.map_append, List.map_append,
      told_of_sectionOf first, ih]

/-- A text between double quotes is an interpreted string literal that denotes the text, and has no
control character below the space as it is. So every description with a block is generated under
the default settings, and its code has one constant for each event of a generated block, in order:
the names of the constants are different, and each has a literal that denotes the name of its event.
Read line by line, the code may have such lines beyond these only in comments that are no single
lines. -/
theorem event_constants_read [WorkingDirectory] (tree : FileTree) {schema : Schema}
    (filled : schema.blocks ≠ []) :
    (∀ text : String, Literal.unquote? (Text.quote text).toList = some (Literal.bytesOf text) ∧
      ∀ c ∈ (Text.quote text).toList, 32 ≤ c.toNat) ∧
    ∃ generator generation constants,
      (Generator.ofValue tree .null).run.run [] = (.ok generator, []) ∧
      generator.answer schema = .ok generation ∧
      constants.map (·.2) =
        ((generatedBlocks schema.blocks generation.report.outcomes).flatMap blockEvents).map
          (fun event => Literal.bytesOf event.info.name) ∧
      (constants.map (·.1)).Nodup ∧
      constants.Sublist (stringConstants generation.code) ∧
      (schema.isSingle = true → stringConstants generation.code = constants) := by
  refine ⟨fun text => ⟨Literal.unquote?_quote text, fun c => le_of_mem_quote⟩, ?_⟩
  have configured : (Generator.ofValue tree .null).run.run [] =
      (.ok (standard (.bool true) (.bool true)), []) := rfl
  obtain ⟨remarks, reviewed⟩ :=
    (spells_standard (.bool true) (.bool true)).exists_review rfl schema
  obtain ⟨report, state, ran⟩ := exists_run_standard (.bool true) (.bool true) schema
  obtain ⟨length, sections⟩ := unitSections_run rfl ran
  obtain ⟨code, coded, -⟩ := exists_unitCode schema rfl sections.imports
  have answered := answer_eq_ok filled reviewed ran coded
  exact ⟨_, _, _, configured, answered, told_sections sections.sections,
    nodup_told_unitOf rfl ran, told_sublist sections coded,
    fun single => stringConstants_of_isSingle single (generatedBlocks_subset _ _) sections coded⟩

/-- A module with two events, one of which needs escapes in its literal. -/
def eventsSample : Schema where
  source := .string "app.json"
  blocks :=
    [{ info := { name := "app", rawType := .single "Module" }
       events := [{ info := { name := "ready" } }, { info := { name := "a \"b\"\n" } }] }]

attribute [local instance] WorkingDirectory.root

theorem event_constants_read_sample :
    eventsSample.blocks ≠ [] ∧ eventsSample.isSingle = true ∧
      ∃ generator generation,
        (Generator.ofValue {} .null).run.run [] = (.ok generator, []) ∧
        generator.answer eventsSample = .ok generation ∧
        (stringConstants generation.code).map (·.2) =
          [Literal.bytesOf "ready", Literal.bytesOf "a \"b\"\n"] := by
  have filled : eventsSample.blocks ≠ [] := by simp [eventsSample]
  have single : eventsSample.isSingle = true := by decide +kernel
  obtain ⟨-, generator, generation, constants, configured, answered, values, -, -, read⟩ :=
    event_constants_read {} filled
  have same : generator = standard (.bool true) (.bool true) :=
    (Except.ok.inj (congrArg Prod.fst configured)).symm
  have outcomes : ((standard (.bool true) (.bool true)).answer eventsSample).toOption.map
      (·.report.outcomes) = some [⟨"app", .generated 0⟩] := by
    decide +kernel
  have generated : generation.report.outcomes = [⟨"app", .generated 0⟩] := by
    rw [← same, answered] at outcomes
    exact Option.some.inj outcomes
  refine ⟨filled, single, generator, generation, configured, answered, ?_⟩
  rw [read single, values, generated]
  rfl

end Generator

end HostBindings
