import HostBindings.Proofs.Emission.Faults
import HostBindings.Proofs.Layout.Standard
import HostBindings.Proofs.Runs.Ends

/-!
# Runs in which every block is generated

Under the default settings nothing that a description can hold makes a pass fail, and a unit takes
whatever a pass writes. This stays so whatever texts are set for the package, for the key of the
tags, for the field of the handle and for the names of events: so every block is generated.

## Main definitions

* `Generator.ofTexts` — the default settings with these four texts

## Main results

* `Generator.serves_ofTexts` — they serve every name and every type
* `Generator.Serves.exists_blocks` — every block is generated
* `Generator.run_complete`
-/

namespace HostBindings

open Api (Block Schema)

/-- By default a tag stands for a primitive type or for nothing that is known. -/
theorem TypeSettings.basicType_default (tag : String) :
    TypeSettings.basicType {} (some tag) =
      (Primitive.ofTag? tag).elim (TypeSettings.dynamic {}) fun primitive =>
        .ok { name := TypeSettings.primitive {} primitive } :=
  @Generator.basicType_standard .null .null tag

/-- Every tag has a type by default. -/
theorem TypeSettings.exists_basicType (tag : Option String) :
    ∃ type, TypeSettings.basicType {} tag = .ok type := by
  cases tag with
  | none => exact ⟨_, rfl⟩
  | some tag =>
    rw [basicType_default]
    cases Primitive.ofTag? tag with
    | none => exact ⟨_, rfl⟩
    | some primitive => exact ⟨_, rfl⟩

namespace Generator

variable {generator : Generator}

/-! ### Settings that serve everything -/

/-- The generator of the default settings, with texts of one's own for the package, the key of the
tags, the field of the handle, and what the names of events begin with. -/
def ofTexts (package tag handle lead : String) : Generator where
  settings :=
    { packageName := .string package
      tagKey := .string tag
      hostHandleField := .string handle
      eventLead := .string lead
      custom := .object (Settings.defaultTypes ++ [("type_overrides", .object [])]) }

variable (package tag handle lead : String)

/-- It is what the four settings make over the defaults. -/
theorem ofValue_ofTexts [WorkingDirectory] (tree : FileTree) :
    (Generator.ofValue tree
      (.object [("package_name", .string package), ("tag_key", .string tag),
        ("host_handle_field", .string handle), ("event_prefix", .string lead)])).run.run [] =
      (.ok (ofTexts package tag handle lead), []) := rfl

theorem serves_ofTexts : (ofTexts package tag handle lead).Serves where
  settings := by
    intro fault refused
    cases refused with
    | symbol missing | base missing | handle missing | host missing | lead missing => cases missing
    | @type tag _ missing =>
      obtain ⟨type, found⟩ := TypeSettings.exists_basicType tag
      cases missing.symm.trans found
  stem _ := ⟨_, rfl⟩
  lenient := rfl
  builtin := rfl

/-! ### Blocks and runs -/

variable {package tag handle lead}

/-- A block that is allowed is generated. -/
theorem Serves.exists_block (serves : generator.Serves) (shared : Bool) {block : Block}
    (allowed : generator.settings.allows block.info.processes = .ok true)
    (state : RunState DeclarationUnit) :
    ∃ after nested, (generator.runBlock .toUnit shared block).outcome state = (.ok (), after) ∧
      after.outcomes = state.outcomes ++ [⟨block.name, .generated nested⟩] := by
  obtain ⟨start, started⟩ := serves.exists_start block state.reserved
  obtain ⟨nested, pass, run⟩ := serves.exists_runs started
  obtain ⟨after, ran, -, adds⟩ :=
    outcome_runBlock_toUnit shared (prepare_eq_some.mpr ⟨allowed, started⟩) run
  exact ⟨after, nested, ran, adds.outcomes⟩

/-- So are all blocks, one after another. -/
theorem Serves.exists_blocks (serves : generator.Serves) (shared : Bool) {blocks : List Block}
    (allowed : ∀ block ∈ blocks, generator.settings.allows block.info.processes = .ok true)
    (state : RunState DeclarationUnit) :
    ∃ after outcomes,
      (blocks.forM (generator.runBlock .toUnit shared)).outcome state = (.ok (), after) ∧
      after.outcomes = state.outcomes ++ outcomes ∧
      List.Forall₂ (fun block outcome => ∃ nested, outcome = ⟨block.name, .generated nested⟩)
        blocks outcomes := by
  induction blocks generalizing state with
  | nil => exact ⟨state, [], rfl, (List.append_nil _).symm, .nil⟩
  | cons block rest ih =>
    obtain ⟨middle, nested, ran, one⟩ :=
      serves.exists_block shared (allowed block List.mem_cons_self) state
    obtain ⟨after, outcomes, others, all, generated⟩ :=
      ih (fun other member => allowed other (List.mem_cons_of_mem _ member)) middle
    refine ⟨after, ⟨block.name, .generated nested⟩ :: outcomes, ?_, ?_,
      .cons ⟨nested, rfl⟩ generated⟩
    · rw [Running.outcome_forM_cons, ran]
      exact others
    · rw [all, one, List.append_assoc]
      rfl

/-- A run whose blocks are all allowed has a report in which all are generated. -/
theorem Serves.exists_report (serves : generator.Serves) (shared : Bool) {schema : Schema}
    (allowed : ∀ block ∈ schema.blocks,
      generator.settings.allows block.info.processes = .ok true) :
    ∃ report after,
      (generator.run .toUnit shared schema).outcome
        { destination := { source := schema.source } } = (.ok report, after) ∧
      List.Forall₂ (fun block outcome => ∃ nested, outcome = ⟨block.name, .generated nested⟩)
        schema.blocks report.outcomes := by
  obtain ⟨symbols, known⟩ := Spells.exists_blockSymbols serves.exists_baseSymbol schema
  obtain ⟨after, outcomes, ran, all, generated⟩ := serves.exists_blocks shared allowed
    { destination := { source := schema.source }, reserved := symbols }
  rw [List.nil_append] at all
  subst all
  rw [run_eq, outcome_runThrough, known]
  simp only [ran]
  exact ⟨_, _, rfl, generated⟩

/-- Every description can be generated. Under the default settings, with any texts for the package,
the key of the tags, the field of the handle and the names of events, the pass of every block starts
and succeeds, whichever names are taken before it, and a run into a unit comes to its end with every
block generated, in order. -/
theorem run_complete [WorkingDirectory] (tree : FileTree)
    (package tag handle lead : String) :
    ∃ generator,
      (Generator.ofValue tree
        (.object [("package_name", .string package), ("tag_key", .string tag),
          ("host_handle_field", .string handle), ("event_prefix", .string lead)])).run.run [] =
        (.ok generator, []) ∧
      (∀ block reserved, ∃ start nested pass,
        Pass.start generator block reserved = .ok start ∧
        Emit.Runs (generator.emission block) start nested pass) ∧
      ∀ schema shared, ∃ report after,
        (generator.run .toUnit shared schema).outcome
          { destination := { source := schema.source } } = (.ok report, after) ∧
        List.Forall₂ (fun block outcome => ∃ nested, outcome = ⟨block.name, .generated nested⟩)
          schema.blocks report.outcomes := by
  have serves := serves_ofTexts package tag handle lead
  refine ⟨_, ofValue_ofTexts package tag handle lead tree, fun block reserved => ?_,
    fun schema shared => ?_⟩
  · obtain ⟨start, started⟩ := serves.exists_start block reserved
    obtain ⟨nested, pass, run⟩ := serves.exists_runs started
    exact ⟨start, nested, pass, started, run⟩
  · exact serves.exists_report shared fun _ _ => rfl

end Generator

end HostBindings
