import HostBindings.Proofs.Layout.Standard
import HostBindings.Proofs.Runs.Ends

/-!
# The layout of what is generated

Under the default settings nothing ends a run, so every description with a block is generated. If
the description is plain, the generated code has the layout of `Layout.declaredNames?`, and the
names that are read from it are those that the passes of the generated blocks declared, in order.

## Main results

* `Generator.wellFormed_of_runs` — what a pass writes for a plain block is read back
* `Generator.exists_run_standard` — no run ends before its last block
* `Generator.declared_names_read`
-/

namespace HostBindings

open Api (Block Schema)
open Layout

namespace Generator

variable {comments tags : Json} {block : Block}

/-! ### Plain blocks -/

/-- What a pass writes for a plain block is read back. -/
theorem wellFormed_of_runs {reserved : List String} {start pass : Pass} {count : Nat}
    (plain : block.isPlain = true)
    (started : Pass.start (standard comments tags) block reserved = .ok start)
    (run : Emit.Runs ((standard comments tags).emission block) start count pass) :
    ∀ declaration ∈ pass.sink.declarations, declaration.WellFormed := by
  obtain ⟨primary, nested, fits, progress, -⟩ := progress_emission rfl started run
  obtain ⟨given, words⟩ := isWord_of_runs started run
  rw [progress.written] at words
  intro declaration member
  rw [progress.written] at member
  rcases List.mem_append.mp member with first | later
  · refine wellFormed_of_primaryFor given plain (fun name there => ?_) fits declaration first
    obtain ⟨other, written, named⟩ := List.mem_flatMap.mp there
    exact words other (List.mem_append_left _ written) name named
  · obtain ⟨pending, there, declarationFor⟩ := exists_item_of_mem progress.nested later
    have below := progress.waits.descends pending (by simp [there])
    have property := isPlain_of_descends (fun _ root => isPlain_of_mem_blockNodes plain root) below
    exact wellFormed_of_declarationFor given property (words declaration member) declarationFor

/-- The sections of plain blocks are read back. -/
theorem wellFormed_of_unitSections {source : Json} {done : List Block} {unit : DeclarationUnit}
    (plain : ∀ block ∈ done, block.isPlain = true)
    (sections : (standard comments tags).UnitSections source done unit) : unit.WellFormed := by
  have written : ∀ entry ∈ unit.sections, ∃ block ∈ done,
      (standard comments tags).SectionOf block entry :=
    fun entry member => exists_item_of_mem sections.sections member
  constructor
  · intro entry member none
    obtain ⟨block, -, start, pass, wrote⟩ := written entry member
    -- there is the structure of the block at least
    obtain ⟨primary, nested, all, fits, -⟩ := wrote.order
    rw [none] at all
    rw [(List.append_eq_nil_iff.mp all.symm).1] at fits
    cases fits
  · intro entry member
    obtain ⟨block, -, start, pass, wrote⟩ := written entry member
    exact wrote.text
  · intro declaration member
    obtain ⟨entry, there, member⟩ := List.mem_flatMap.mp member
    obtain ⟨block, known, start, pass, wrote⟩ := written entry there
    obtain ⟨reserved, started⟩ := wrote.started
    obtain ⟨count, run⟩ := wrote.succeeded
    rw [wrote.declarations] at member
    exact wellFormed_of_runs (plain block known) started run declaration member

/-! ### Runs that come to their end -/

section Ends

variable (comments tags : Json)

/-- Under the default settings every entity has a symbol. -/
theorem spells_standard : (standard comments tags).Spells := fun _ => ⟨_, rfl⟩

/-- Under the default settings the pass of every block can start. -/
theorem prepares_standard : (standard comments tags).Prepares :=
  fun _ _ => ⟨some _, prepare_eq_some.mpr ⟨rfl, rfl⟩⟩

theorem exists_run_standard (schema : Schema) :
    ∃ report state, ((standard comments tags).run .toUnit true schema).outcome
      { destination := { source := schema.source } } = (.ok report, state) := by
  obtain ⟨report, state, -, ran, -⟩ := (spells_standard comments tags).exists_run
    (prepares_standard comments tags) .toUnit true (by simp [Destination.toUnit]) schema
    { source := schema.source }
  exact ⟨report, state, ran⟩

end Ends

/-! ### Reading what is generated -/

/-- The code of the unit that a plain description goes to: it has the layout if a block was
generated. -/
theorem exists_unitCode_standard {schema : Schema} {done : List Block}
    (plain : schema.isPlain = true) (known : done ⊆ schema.blocks)
    (sections : (standard comments tags).UnitSections schema.source done
      ((standard comments tags).unitOf schema)) :
    ∃ code, (standard comments tags).unitCode schema ((standard comments tags).unitOf schema) =
        .ok code ∧
      (done ≠ [] → declaredNames? code = some ((standard comments tags).unitOf schema).names) := by
  simp only [Schema.isPlain, Bool.and_eq_true, List.all_eq_true] at plain
  -- without sections there is no code, but then no block was generated
  by_cases filled : ((standard comments tags).unitOf schema).sections = []
  · refine ⟨"", by rw [unitCode, filled]; rfl, fun some => ?_⟩
    have length := sections.sections.length_eq
    rw [filled, List.length_nil, List.length_eq_zero_iff] at length
    exact absurd length some
  · have proper := wellFormed_of_unitSections (fun block member => plain.2 block (known member))
      sections
    obtain ⟨path?, imports⟩ : ∃ path? : Option String,
        ((standard comments tags).unitOf schema).imports = path?.toList.map .string :=
      sections.imports.elim (fun nothing => ⟨none, nothing⟩)
        fun host => ⟨some "github.com/gopherjs/gopherjs/js", host⟩
    have single : ∀ line ∈ (standard comments tags).noticeLines schema.source
        (schema.metadataBlock?.map (·.info)), '\n' ∉ line.toList := by
      refine noticeLines_single _ (Api.isSingle_of_isPlain plain.1) fun info metadata => ?_
      obtain ⟨block, found, rfl⟩ := Option.map_eq_some_iff.mp metadata
      have block := plain.2 _ (List.mem_of_find?_eq_some found)
      simp only [Block.isPlain, Bool.and_eq_true] at block
      exact Api.Info.isSingle_of_isPlain block.1.1.1.1
    rw [← sections.source] at single
    have word : isWord "electron".toList = true := by decide
    obtain ⟨code, rendered, read⟩ :=
      declaredNames?_unitCode rfl rfl word imports single proper filled
    exact ⟨code, rendered, fun _ => read⟩

/-- Under the default settings, with comments and tags or without, every description with a block is
generated. The unit it goes to has a section for each generated block, with what the pass of the
block declared: the constants of the events, the structure, and the nested declarations. If the
description is plain and a block is generated, the code has the layout of generated code, and the
names that are read from it are those of the sections, in order. -/
theorem declared_names_read [WorkingDirectory] (tree : FileTree) (comments tags : Json)
    {schema : Schema} (plain : schema.isPlain = true) (filled : schema.blocks ≠ []) :
    ∃ generator generation,
      (Generator.ofValue tree
        (.object [("add_comments", comments), ("generate_tags", tags)])).run.run [] =
          (.ok generator, []) ∧
      generator.answer schema = .ok generation ∧
      List.Forall₂ generator.SectionOf (generatedBlocks schema.blocks generation.report.outcomes)
        (generator.unitOf schema).sections ∧
      (generator.unitOf schema).sections.length = generation.report.generated.length ∧
      (generation.report.generated ≠ [] →
        declaredNames? generation.code = some (generator.unitOf schema).names) := by
  obtain ⟨remarks, reviewed⟩ := (spells_standard comments tags).exists_review rfl schema
  obtain ⟨report, state, ran⟩ := exists_run_standard comments tags schema
  obtain ⟨length, sections⟩ := unitSections_run rfl ran
  obtain ⟨code, coded, read⟩ := exists_unitCode_standard plain (generatedBlocks_subset _ _) sections
  have count := length_generatedBlocks length
  refine ⟨standard comments tags, _, ofValue_standard tree comments tags,
    answer_eq_ok filled reviewed ran coded, sections.sections,
    sections.sections.length_eq.symm.trans count, fun generated => read fun none => ?_⟩
  rw [none, List.length_nil] at count
  exact generated (List.eq_nil_of_length_eq_zero count.symm)

/-- A module with an event and an enumeration. -/
def layoutSample : Schema :=
  { source := .string "app.json"
    blocks :=
      [{ info :=
           { name := "app", rawType := .single "Module"
             description := "Two\nlines with \x60code\x60." }
         events := [{ info := { name := "closed" } }]
         properties :=
           [{ info := { name := "state", rawType := .single "String", platforms := ["macOS"] }
              possibleValues := [{ value := "on" }] }] }] }

attribute [local instance] WorkingDirectory.root

theorem declared_names_read_sample :
    layoutSample.isPlain = true ∧ layoutSample.blocks ≠ [] ∧
      ∃ generator generation,
        (Generator.ofValue {}
          (.object [("add_comments", .bool true), ("generate_tags", .bool true)])).run.run [] =
            (.ok generator, []) ∧
        generator.answer layoutSample = .ok generation ∧
        generation.report.generated ≠ [] ∧
        declaredNames? generation.code =
          some ["EvtAppClosed", "AppModule", "AppState", "AppStateOn"] := by
  have plain : layoutSample.isPlain = true := by decide +kernel
  have filled : layoutSample.blocks ≠ [] := by simp [layoutSample]
  obtain ⟨generator, generation, configured, answered, -, length, read⟩ :=
    declared_names_read {} (.bool true) (.bool true) plain filled
  have same : generator = standard (.bool true) (.bool true) := by
    rw [ofValue_standard] at configured
    exact (Except.ok.inj (congrArg Prod.fst configured)).symm
  have names : (generator.unitOf layoutSample).names =
      ["EvtAppClosed", "AppModule", "AppState", "AppStateOn"] := by
    rw [same]
    decide +kernel
  have generated : generation.report.generated ≠ [] := by
    intro none
    rw [none, List.length_nil, List.length_eq_zero_iff] at length
    rw [DeclarationUnit.names, length] at names
    cases names
  exact ⟨plain, filled, generator, generation, configured, answered, generated,
    names ▸ read generated⟩

end Generator

end HostBindings
