import HostBindings.Proofs.Layout.Generations
import HostBindings.Proofs.Layout.Units
import HostBindings.Proofs.Runs.Complete

/-!
# The names of members

The fields of a structure bear the symbols of their properties and methods, the parameters and the
result of a function those of theirs. Unlike the names of types and of constants, these names are
not claimed: two of them are the same where two symbols are, and a field has the name of the handle
where its symbol is that name. So under the default settings the members of a declaration differ
exactly if their symbols do.

## Main definitions

* `Code.Declaration.memberNames` — the lists of names in a declaration that have to differ
* `Generator.fieldSymbols`, `Generator.slotSymbols` — the symbols of members
* `Generator.blockMembers`, `Pending.members` — the lists of symbols that a description gives

## Main results

* `Generator.memberNames_primary`, `Generator.memberNames_nested` — one declaration
* `Generator.memberNames_runs` — the declarations of a pass
* `Generator.member_names_differ_iff`
-/

namespace HostBindings

open Api (Block Info Schema)

namespace Code

/-- The names of the parameters and of the result of a function. -/
def Signature.names (signature : Signature) : List String := signature.slots.map (·.name)

/-- The names of the parameters and of the result, in a field of function type. -/
def Field.slotNames? (field : Field) : Option (List String) :=
  match field.type with
  | .value _ => none
  | .function signature => some signature.names

/-- The lists of names in a declaration that have to differ: those of the fields of a structure with
its handle, and those of the parameters and the result of each function. -/
def Declaration.memberNames : Declaration → List (List String)
  | events .. | enumeration .. => []
  | composite _ _ handle fields =>
    (handle.field :: fields.map (·.name)) :: fields.filterMap (·.slotNames?)
  | function _ _ signature => [signature.names]

end Code

namespace Generator

/-! ### Symbols -/

/-- The symbols of parameters and results under the default settings. -/
def slotSymbols (nodes : List PropertyNode) : List String :=
  nodes.map fun node => Naming.Normalizer.baseSymbol {} node.property.info

/-- The symbols of the fields of a structure under the default settings, behind its handle. -/
def fieldSymbols (infos : List Info) : List String :=
  "HostHandle" :: infos.map (Naming.Normalizer.baseSymbol {})

/-- The symbols of the members of a block: of its properties and its methods, and of the parameters
and the result of each method. -/
def blockMembers (block : Block) : List (List String) :=
  fieldSymbols ((blockProperties block).map (·.property.info) ++
      (blockMethods block).map (·.method.info)) ::
    (blockMethods block).map fun node => slotSymbols (slotNodes node)

end Generator

/-- The symbols of the members of an entity that waits for its declaration. -/
def Pending.members (pending : Pending) : List (List String) :=
  match pending.kind with
  | .constants => []
  | .composite =>
    if pending.node.property.kind = .function then
      [Generator.slotSymbols pending.node.parameters]
    else [Generator.fieldSymbols (pending.node.properties.map (·.property.info))]

namespace Generator

variable {comments tags : Json} {allocated : List String} {block : Block}

/-- Under the default settings an entity has one symbol. -/
theorem eq_of_baseSymbol {info : Info} {symbol : String}
    (spelt : (standard comments tags).baseSymbol info = .ok symbol) :
    symbol = Naming.Normalizer.baseSymbol {} info := by
  cases spelt
  rfl

theorem names_slots {nodes : List PropertyNode} {slots : List Code.Slot}
    (fits : List.Forall₂ (fun node slot =>
      (standard comments tags).SlotFor allocated node.property slot) nodes slots) :
    slots.map (·.name) = slotSymbols nodes :=
  (forall₂_map_eq fits fun fit => (eq_of_baseSymbol fit.name).symm).symm

theorem names_signature {parameters : List PropertyNode} {result? : Option PropertyNode}
    {signature : Code.Signature}
    (fits : (standard comments tags).SignatureFor allocated parameters result? signature) :
    signature.names = slotSymbols (parameters ++ result?.toList) := by
  have result : List.Forall₂ (fun node slot =>
      (standard comments tags).SlotFor allocated node.property slot) result?.toList
        signature.result?.toList := by
    have rel := fits.result
    revert rel
    generalize signature.result? = slot?
    rintro (fit | _)
    · exact .cons fit .nil
    · exact .nil
  exact names_slots (List.rel_append fits.parameters result)

/-! ### Declarations -/

theorem name_field {owner : Info} {node : PropertyNode} {field : Code.Field}
    (fits : (standard comments tags).FieldFor allocated owner node field) :
    field.name = Naming.Normalizer.baseSymbol {} node.property.info ∧ field.slotNames? = none := by
  obtain ⟨slot, slotFor, name, type⟩ := fits.slot
  exact ⟨name.trans (eq_of_baseSymbol slotFor.name), by rw [Code.Field.slotNames?, type]⟩

theorem name_method {owner : Info} {node : MethodNode} {field : Code.Field}
    (fits : (standard comments tags).MethodFor allocated owner node field) :
    field.name = Naming.Normalizer.baseSymbol {} node.method.info ∧
      field.slotNames? = some (slotSymbols (slotNodes node)) := by
  obtain ⟨signature, signatureFor, type⟩ := fits.type
  refine ⟨eq_of_baseSymbol fits.name, ?_⟩
  rw [Code.Field.slotNames?, type]
  exact congrArg some (names_signature signatureFor)

/-- The fields of properties have their symbols, and no parameters. -/
theorem names_fields {owner : Info} {nodes : List PropertyNode} {fields : List Code.Field}
    (fits : List.Forall₂ ((standard comments tags).FieldFor allocated owner) nodes fields) :
    fields.map (·.name) =
        (nodes.map (·.property.info)).map (Naming.Normalizer.baseSymbol {}) ∧
      fields.filterMap (·.slotNames?) = [] := by
  constructor
  · rw [List.map_map]
    exact (forall₂_map_eq fits fun fit => (name_field fit).1.symm).symm
  · refine List.filterMap_eq_nil_iff.mpr fun field member => ?_
    obtain ⟨_, -, fit⟩ := exists_item_of_mem fits member
    exact (name_field fit).2

/-- The fields of methods have their symbols, and their parameters. -/
theorem names_methods {owner : Info} {nodes : List MethodNode} {fields : List Code.Field}
    (fits : List.Forall₂ ((standard comments tags).MethodFor allocated owner) nodes fields) :
    fields.map (·.name) = (nodes.map (·.method.info)).map (Naming.Normalizer.baseSymbol {}) ∧
      fields.filterMap (·.slotNames?) = nodes.map fun node => slotSymbols (slotNodes node) := by
  constructor
  · rw [List.map_map]
    exact (forall₂_map_eq fits fun fit => (name_method fit).1.symm).symm
  · have slots : fields.map (·.slotNames?) =
        nodes.map fun node => some (slotSymbols (slotNodes node)) :=
      (forall₂_map_eq fits fun fit => (name_method fit).2.symm).symm
    calc fields.filterMap (·.slotNames?) = (fields.map (·.slotNames?)).filterMap id := by
          rw [List.filterMap_map]
          rfl
      _ = nodes.map fun node => slotSymbols (slotNodes node) := by
          rw [slots, List.filterMap_map, ← List.filterMap_eq_map]
          rfl

theorem memberNames_structure {block : Block} {properties : List PropertyNode}
    {methods : List MethodNode} {handle : Code.Handle} {fields : List Code.Field}
    {notes : List String} {symbol : String}
    (fits : (standard comments tags).StructureFor allocated block properties methods handle
      fields) :
    (Code.Declaration.composite notes symbol handle fields).memberNames =
      fieldSymbols (properties.map (·.property.info) ++ methods.map (·.method.info)) ::
        methods.map fun node => slotSymbols (slotNodes node) := by
  obtain ⟨values, calls, rfl, fieldsFor, methodsFor⟩ := fits.fields
  obtain ⟨valueNames, noSlots⟩ := names_fields fieldsFor
  obtain ⟨callNames, slots⟩ := names_methods methodsFor
  have handle : handle.field = "HostHandle" := fits.handle.field
  simp only [Code.Declaration.memberNames, fieldSymbols, handle, List.map_append, valueNames,
    callNames, List.filterMap_append, noSlots, slots, List.nil_append]

/-- The declarations of a block itself. -/
theorem memberNames_primary {symbol : String} {primary : List Code.Declaration}
    (fits : (standard comments tags).PrimaryFor allocated block symbol primary) :
    primary.flatMap (·.memberNames) = blockMembers block := by
  cases fits with
  | plain _ structureFor =>
    rw [List.flatMap_singleton]
    exact memberNames_structure structureFor
  | withEvents _ _ structureFor =>
    rw [List.flatMap_cons, List.flatMap_singleton, Code.Declaration.memberNames, List.nil_append]
    exact memberNames_structure structureFor

/-- A nested declaration. -/
theorem memberNames_nested {pending : Pending} {declaration : Code.Declaration}
    (fits : (standard comments tags).DeclarationFor allocated pending declaration) :
    declaration.memberNames = pending.members := by
  unfold Pending.members
  cases fits with
  | enumeration kind =>
    rw [kind]
    rfl
  | function kind function signature =>
    have names := names_signature signature
    rw [Option.toList_none, List.append_nil] at names
    rw [kind, Code.Declaration.memberNames, names]
    exact (if_pos function).symm
  | composite kind other handleFor fields =>
    obtain ⟨names, noSlots⟩ := names_fields fields
    have handle : _ = "HostHandle" := handleFor.field
    rw [kind, Code.Declaration.memberNames, names, noSlots, handle]
    exact (if_neg other).symm

/-! ### Sections -/

/-- The declarations of a pass have the names that the block and its nested entities give. -/
theorem memberNames_wrote {start pass : Pass} {entry : Section}
    (wrote : (standard comments tags).Wrote block start pass entry) :
    entry.declarations.flatMap (·.memberNames) =
      blockMembers block ++ pass.declared.flatMap (·.members) := by
  obtain ⟨primary, nested, all, fits, others⟩ := wrote.order
  have members : pass.declared.map (·.members) = nested.map (·.memberNames) :=
    forall₂_map_eq others fun fit => (memberNames_nested fit).symm
  rw [all, List.flatMap_append, memberNames_primary fits, List.flatMap_def, ← members,
    ← List.flatMap_def]

/-- The entities that are declared with a block stand in it. -/
theorem descends_wrote {start pass : Pass} {entry : Section}
    (wrote : (standard comments tags).Wrote block start pass entry) :
    ∀ pending ∈ pass.declared, PropertyNode.Descends (blockNodes block) pending.node := by
  obtain ⟨reserved, started⟩ := wrote.started
  obtain ⟨count, run⟩ := wrote.succeeded
  obtain ⟨_, _, -, progress, -⟩ := progress_emission rfl started run
  exact fun pending member => progress.waits.descends pending (by simp [member])

/-- Where all blocks are generated, none is left out. -/
theorem generatedBlocks_eq {blocks : List Block} {outcomes : List Outcome}
    (all : List.Forall₂ (fun block outcome => ∃ nested, outcome = ⟨block.name, .generated nested⟩)
      blocks outcomes) : generatedBlocks blocks outcomes = blocks := by
  induction all with
  | nil => rfl
  | cons first _ ih =>
    obtain ⟨nested, rfl⟩ := first
    rw [generatedBlocks_cons, ih]
    rfl

/-- The members of a section differ in each of its declarations. -/
def MembersDiffer (entry : Section) : Prop :=
  ∀ declaration ∈ entry.declarations, ∀ names ∈ declaration.memberNames, names.Nodup

/-- Under the default settings, every description with a block is generated, and each block has a
section in the code. In the declarations of a section, the names of fields, behind that of the
handle, and those of parameters and results are the symbols of the properties and methods that the
block and the entities nested in it give. So the names of the members differ exactly if, in each of
these, no two symbols are the same and none is the name of the handle. -/
theorem member_names_differ_iff [WorkingDirectory] (tree : FileTree) {schema : Schema}
    (filled : schema.blocks ≠ []) :
    ∃ generator generation,
      (Generator.ofValue tree .null).run.run [] = (.ok generator, []) ∧
      generator.answer schema = .ok generation ∧
      generator.unitCode schema (generator.unitOf schema) = .ok generation.code ∧
      List.Forall₂
        (fun block entry => ∃ start pass, generator.Wrote block start pass entry ∧
          (∀ pending ∈ pass.declared, PropertyNode.Descends (blockNodes block) pending.node) ∧
          entry.declarations.flatMap (·.memberNames) =
            blockMembers block ++ pass.declared.flatMap (·.members) ∧
          (MembersDiffer entry ↔
            ∀ symbols ∈ blockMembers block ++ pass.declared.flatMap (·.members), symbols.Nodup))
        schema.blocks (generator.unitOf schema).sections := by
  have configured : (Generator.ofValue tree .null).run.run [] =
      (.ok (standard (.bool true) (.bool true)), []) := rfl
  have serves : (standard (.bool true) (.bool true)).Serves :=
    serves_ofTexts "electron" "js" "HostHandle" "Evt"
  obtain ⟨remarks, reviewed⟩ :=
    (spells_standard (.bool true) (.bool true)).exists_review rfl schema
  have allowed : ∀ block ∈ schema.blocks, (standard (.bool true) (.bool true)).settings.allows
      block.info.processes = .ok true := fun _ _ => rfl
  -- under the default settings nothing is left out and nothing fails, so all blocks are generated
  obtain ⟨report, state, ran, all⟩ := serves.exists_report true allowed
  obtain ⟨-, sections⟩ := unitSections_run rfl ran
  rw [generatedBlocks_eq all] at sections
  obtain ⟨code, coded, -⟩ := exists_unitCode schema rfl sections.imports
  refine ⟨_, _, configured, answer_eq_ok filled reviewed ran coded, coded,
    sections.sections.imp ?_⟩
  rintro block entry ⟨start, pass, wrote⟩
  have names := memberNames_wrote wrote
  refine ⟨start, pass, wrote, descends_wrote wrote, names, ?_⟩
  rw [← names]
  simp only [MembersDiffer, List.mem_flatMap]
  exact ⟨fun differ names ⟨declaration, member, listed⟩ => differ declaration member names listed,
    fun differ declaration member names listed => differ names ⟨declaration, member, listed⟩⟩

/-- Two properties whose names have one symbol, and a method with two parameters without names. -/
def twinMembersSample : Schema where
  source := .string "app.json"
  blocks :=
    [{ info := { name := "a", rawType := .single "Object" }
       properties :=
         [{ info := { name := "b-c", rawType := .single "String" } },
           { info := { name := "b_c", rawType := .single "Integer" } }] },
      { info := { name := "m", rawType := .single "Module" }
        methods :=
          [{ info := { name := "call" }
             parameters :=
               [{ info := { name := "", rawType := .single "String" } },
                 { info := { name := "", rawType := .single "Integer" } }] }] }]

attribute [local instance] WorkingDirectory.root

theorem member_names_differ_iff_sample :
    twinMembersSample.blocks ≠ [] ∧
      ∃ generator generation structure' module',
        (Generator.ofValue {} .null).run.run [] = (.ok generator, []) ∧
        generator.answer twinMembersSample = .ok generation ∧
        (generator.unitOf twinMembersSample).sections = [structure', module'] ∧
        ["HostHandle", "BC", "BC"] ∈ structure'.declarations.flatMap (·.memberNames) ∧
        ["Obj", "Obj"] ∈ module'.declarations.flatMap (·.memberNames) ∧
        ¬ MembersDiffer structure' ∧ ¬ MembersDiffer module' := by
  have filled : twinMembersSample.blocks ≠ [] := by simp [twinMembersSample]
  obtain ⟨generator, generation, configured, answered, -, sections⟩ :=
    member_names_differ_iff {} filled
  generalize listed : (generator.unitOf twinMembersSample).sections = entries at sections
  obtain ⟨first, second, blocks, one, two⟩ :
      ∃ first second, twinMembersSample.blocks = [first, second] ∧
        ["HostHandle", "BC", "BC"] ∈ blockMembers first ∧ ["Obj", "Obj"] ∈ blockMembers second :=
    ⟨_, _, rfl, by decide +kernel, by decide +kernel⟩
  rw [blocks] at sections
  obtain ⟨structure', _, ⟨_, _, -, -, fields, differ⟩, rest, rfl⟩ :=
    List.forall₂_cons_left_iff.mp sections
  obtain ⟨module', _, ⟨_, _, -, -, slots, apart⟩, none, rfl⟩ := List.forall₂_cons_left_iff.mp rest
  cases none
  refine ⟨filled, generator, generation, structure', module', configured, answered, listed,
    fields ▸ List.mem_append_left _ one, slots ▸ List.mem_append_left _ two, fun all => ?_,
    fun all => ?_⟩
  · exact absurd (differ.mp all _ (List.mem_append_left _ one)) (by decide)
  · exact absurd (apart.mp all _ (List.mem_append_left _ two)) (by decide)

end Generator

end HostBindings
