import HostBindings.Proofs.Reviews.Nodes
import HostBindings.Proofs.Settings.Declared

/-!
# Malformed types

A property whose type is malformed gets the dynamic type, and the review warns of it: there is one
warning for each such property of a block, at any depth, with its path, and no other warning about
the block reads the same. A pass only writes properties that the review comes to, so no malformed
type is replaced without a warning.

## Main definitions

* `Generator.malformedNodes` — the properties of a block with malformed types
* `Generator.WarnsOfMalformed` — the warnings about a block
* `Code.Declaration.slots` — the names with types in a declaration: of its fields, parameters and
  results
* `Generator.passNodes` — the properties in the declarations of a pass
* `Generator.PassReviewed` — what a pass writes for properties, and what the review lists of it

## Main results

* `Generator.warnsOfMalformed_of_blockRemarks` — the warnings about one block
* `Generator.exists_parts_of_review` — the warnings about all blocks
* `Generator.slots_emission` — what a pass writes, and for which properties
* `Generator.passReviewed_of_runs` — all malformed properties in it are listed
* `Generator.malformed_types_reviewed`
-/

namespace HostBindings

open Api (Block Property Schema)

namespace Code

/-- The names with types in a field: its own, or those of the parameters and the result of its
function. -/
def Field.slots (field : Field) : List Slot :=
  match field.type with
  | .value type => [⟨field.name, type⟩]
  | .function signature => signature.slots

/-- The names with types in a declaration. -/
def Declaration.slots : Declaration → List Slot
  | events .. | enumeration .. => []
  | composite _ _ _ fields => fields.flatMap (·.slots)
  | function _ _ signature => signature.slots

end Code

/-- Whether a remark is one about the type of a property. -/
def Remark.isMalformedProperty : Remark → Bool
  | malformedProperty .. => true
  | _ => false

namespace Generator

variable {settings : Settings} {generator : Generator} {block : Block}

/-! ### The warnings about a block -/

/-- The properties of a block with malformed types, at any depth, with their paths. -/
def malformedNodes (block : Block) : List (String × PropertyNode) :=
  (reviewNodes block).filter (·.2.property.info.rawType.isMalformed)

/-- The warnings about a block: those about types of properties are one for each property with a
malformed type, and no other warning reads the same as one of them. -/
structure WarnsOfMalformed (block : Block) (remarks : List Remark) : Prop where
  /-- One for each property. -/
  warned : remarks.filter (·.isMalformedProperty) =
    (malformedNodes block).map fun entry => .malformedProperty block.name entry.1
  /-- The others read differently. -/
  others : ∀ remark ∈ remarks, remark.isMalformedProperty = false →
    ∀ path, remark.message ≠ (Remark.malformedProperty block.name path).message

/-- How a warning about the type of a property reads. -/
theorem toList_malformedProperty (name path : String) :
    (Remark.malformedProperty name path).message.toList =
      "Malformed type on ".toList ++
        (name.toList ++ '.' :: (path.toList ++ " - using dynamic handle".toList)) := by
  have text : (Remark.malformedProperty name path).message =
      "Malformed type on " ++ name ++ "." ++ path ++ " - using dynamic handle" := rfl
  rw [text]
  simp

/-- The words that other remarks begin with. -/
def otherLeads : List String :=
  ["Blocks '", "Unnamed block in ", "Block ", "Static methods and constructor of ",
    "Package name: ", "Missing template "]

/-- A remark that is none about a type begins with other words. -/
theorem exists_lead {remark : Remark} (property : remark.isMalformedProperty = false)
    (type : ∀ block, remark ≠ .malformedBlock block) :
    ∃ lead ∈ otherLeads, lead.toList <+: remark.message.toList := by
  -- each message starts with a text of its own, whatever the names in it
  have begins (lead rest : String) : lead.toList <+: (lead ++ rest).toList := by
    rw [String.toList_append]
    exact List.prefix_append _ _
  cases remark with
  | clash first second symbol =>
    have text : (Remark.clash first second symbol).message =
        "Blocks '" ++ first ++ "' and '" ++ second ++ "' both declare " ++ symbol := rfl
    rw [text, String.append_assoc, String.append_assoc, String.append_assoc, String.append_assoc]
    exact ⟨_, by simp [otherLeads], begins _ _⟩
  | unnamed source => exact ⟨_, by simp [otherLeads], begins "Unnamed block in " source⟩
  | malformedBlock block => exact absurd rfl (type block)
  | basicBlock block tag =>
    have text : (Remark.basicBlock block tag).message = "Block " ++ block ++ " has basic type '" ++
        tag.getD "None" ++ "' - generating a plain struct" := rfl
    rw [text, String.append_assoc, String.append_assoc, String.append_assoc]
    exact ⟨_, by simp [otherLeads], begins _ _⟩
  | omittedMethods block =>
    have text : (Remark.omittedMethods block).message =
        "Static methods and constructor of " ++ block ++ " are not rendered" := rfl
    rw [text, String.append_assoc]
    exact ⟨_, by simp [otherLeads], begins _ _⟩
  | malformedProperty => cases property
  | package flaw => exact ⟨_, by simp [otherLeads], begins "Package name: " flaw.message⟩
  | missingTemplate name => exact ⟨_, by simp [otherLeads], begins "Missing template " name⟩

/-- A remark that is none about the type of a property, nor about the type of another block, does
not read like one about the type of a property. -/
theorem message_ne {remark : Remark} {name : String} (other : remark.isMalformedProperty = false)
    (own : ∀ block, remark = .malformedBlock block → block = name) (path : String) :
    remark.message ≠ (Remark.malformedProperty name path).message := by
  intro same
  by_cases type : ∃ block, remark = .malformedBlock block
  · obtain ⟨block, rfl⟩ := type
    obtain rfl := own block rfl
    -- the two texts around the name do not have the same length
    have text : (Remark.malformedBlock block).message = "Malformed type on block " ++ block := rfl
    have lengths := congrArg (·.toList.length) same
    simp only [toList_malformedProperty, text] at lengths
    simp at lengths
    omega
  · obtain ⟨lead, known, begins⟩ := exists_lead other (not_exists.mp type)
    rw [same, toList_malformedProperty] at begins
    have words : ∀ lead ∈ otherLeads, ¬ lead.toList <+: "Malformed type on ".toList ∧
        ¬ "Malformed type on ".toList <+: lead.toList := by
      decide
    exact (List.prefix_or_prefix_of_prefix begins (List.prefix_append _ _)).elim
      (words lead known).1 (words lead known).2

/-- What holds of a remark holds of all that is said, whether or not the remark is made. -/
theorem forall_mem_guarded {holds : Remark → Prop} {condition : Prop} [Decidable condition]
    {remark : Remark} (own : holds remark) :
    ∀ other ∈ if condition then [remark] else [], holds other := by
  split
  · simpa using own
  · simp

/-- The warnings about one block. -/
theorem warnsOfMalformed_of_blockRemarks {source : String} {clashes : List Remark}
    (clash : ∀ remark ∈ clashes, ∃ first second symbol, remark = .clash first second symbol) :
    WarnsOfMalformed block (clashes ++ blockRemarks source block) := by
  let about (entry : String × Property) : Option Remark :=
    if entry.2.info.rawType.isMalformed then some (.malformedProperty block.name entry.1) else none
  -- all that is said before the properties are gone through
  obtain ⟨lead, split, before⟩ : ∃ lead,
      clashes ++ blockRemarks source block = lead ++ (blockPaths block).filterMap about ∧
      ∀ remark ∈ lead, remark.isMalformedProperty = false ∧
        ∀ other, remark = .malformedBlock other → other = block.name := by
    refine ⟨_, (List.append_assoc _ _ _).symm, ?_⟩
    simp only [List.forall_mem_append]
    refine ⟨fun remark member => ?_, ⟨⟨forall_mem_guarded ⟨rfl, nofun⟩, forall_mem_guarded ?_⟩,
      forall_mem_guarded ⟨rfl, nofun⟩⟩, forall_mem_guarded ⟨rfl, nofun⟩⟩
    · obtain ⟨_, _, _, rfl⟩ := clash remark member
      exact ⟨rfl, nofun⟩
    · exact ⟨rfl, fun _ same => (Remark.malformedBlock.inj same).symm⟩
  have paths : (blockPaths block).filterMap about =
      (malformedNodes block).map fun entry => .malformedProperty block.name entry.1 := by
    rw [← map_reviewNodes, List.filterMap_map, malformedNodes, ← List.filterMap_eq_map,
      List.filterMap_filter]
    rfl
  have said : ∀ remark ∈ (blockPaths block).filterMap about, remark.isMalformedProperty = true := by
    rw [paths]
    exact List.forall_mem_map.mpr fun _ _ => rfl
  constructor
  · have none : lead.filter (·.isMalformedProperty) = [] :=
      List.filter_eq_nil_iff.mpr (by simpa using fun remark member => (before remark member).1)
    rw [split, List.filter_append, none, List.filter_eq_self.mpr said, paths, List.nil_append]
  · intro remark member other path
    rw [split] at member
    rcases List.mem_append.mp member with early | late
    · exact message_ne other (before remark early).2 path
    · rw [said remark late] at other
      cases other

/-- The warnings about all blocks: those about each block, in order. -/
theorem exists_parts_of_reviewBlocks {source : String} {seen : List (String × String)}
    {blocks : List Block} {remarks : List Remark}
    (reviewed : generator.reviewBlocks source seen blocks = .ok remarks) :
    ∃ parts, remarks = parts.flatten ∧ List.Forall₂ WarnsOfMalformed blocks parts := by
  induction blocks generalizing seen remarks with
  | nil =>
    cases reviewed
    exact ⟨[], rfl, .nil⟩
  | cons block rest ih =>
    simp only [reviewBlocks, bind_eq_ok_iff] at reviewed
    obtain ⟨symbol, -, more, later, same⟩ := reviewed
    obtain ⟨parts, rfl, each⟩ := ih later
    cases same
    refine ⟨_ :: parts, rfl, .cons (warnsOfMalformed_of_blockRemarks ?_) each⟩
    intro remark member
    split at member
    · exact ⟨_, _, _, List.mem_singleton.mp member⟩
    · cases member

/-- The warnings of a description: those about each block, in order, and others that do not read
like warnings about the type of a property. -/
theorem exists_parts_of_review {schema : Schema} {remarks : List Remark}
    (reviewed : generator.review schema = .ok remarks) :
    ∃ parts rest, remarks = parts.flatten ++ rest ∧
      List.Forall₂ WarnsOfMalformed schema.blocks parts ∧
      ∀ remark ∈ rest, ∀ name path,
        remark.message ≠ (Remark.malformedProperty name path).message := by
  simp only [review, bind_eq_ok_iff] at reviewed
  obtain ⟨about, blocks, flaws, -, same⟩ := reviewed
  obtain ⟨parts, rfl, each⟩ := exists_parts_of_reviewBlocks blocks
  cases same
  refine ⟨parts, _, List.append_assoc _ _ _, each, ?_⟩
  rw [List.forall_mem_append]
  constructor
  · refine List.forall_mem_map.mpr fun flaw _ name path => ?_
    exact message_ne rfl (by simp) path
  · refine List.forall_mem_map.mpr fun template _ name path => ?_
    exact message_ne rfl (by simp) path

/-- A description is reviewed if the settings are of the declared types. -/
theorem exists_review_of_isDeclared (declared : settings.IsDeclared)
    (configured : Generator.ofSettings settings = .ok generator) (schema : Schema) :
    ∃ remarks, generator.review schema = .ok remarks := by
  obtain ⟨normalizer, plain⟩ :=
    Generator.exists_normalizer declared.suffix declared.custom configured
  have spells : generator.Spells := fun info => ⟨_, by rw [baseSymbol, plain]; rfl⟩
  obtain ⟨name, package⟩ := declared.package
  exact spells.exists_review (by rw [settings_ofSettings configured, package]) schema

/-! ### What a pass writes -/

/-- The properties in the declaration of an entity that waits: the parameters of a function, or the
fields of a structure. -/
def pendingNodes (pending : Pending) : List PropertyNode :=
  match pending.kind with
  | .constants => []
  | .composite =>
    if pending.node.property.kind = .function then pending.node.parameters
    else pending.node.properties

/-- The properties in the declarations of a pass, those of the block first. -/
def passNodes (block : Block) (pass : Pass) : List PropertyNode :=
  blockNodes block ++ pass.declared.flatMap pendingNodes

variable {allocated : List String}

/-- A name with a type for each property. -/
def SlotsFor (generator : Generator) (allocated : List String) (nodes : List PropertyNode)
    (slots : List Code.Slot) : Prop :=
  List.Forall₂ (fun node slot => generator.SlotFor allocated node.property slot) nodes slots

/-- The fields of properties, one name with a type for each. -/
theorem slots_fields {owner : Api.Info} {nodes : List PropertyNode} {fields : List Code.Field}
    (fits : List.Forall₂ (generator.FieldFor allocated owner) nodes fields) :
    generator.SlotsFor allocated nodes (fields.flatMap (·.slots)) := by
  have each : generator.SlotsFor allocated (nodes.flatMap fun node => [node])
      (fields.flatMap (·.slots)) := by
    refine List.rel_flatMap fits fun node field fieldFor => ?_
    obtain ⟨slot, slotFor, name, type⟩ := fieldFor.slot
    rw [Code.Field.slots, type, name]
    exact .cons slotFor .nil
  rwa [List.flatMap_singleton'] at each

theorem slots_signature {parameters : List PropertyNode} {result? : Option PropertyNode}
    {signature : Code.Signature}
    (fits : generator.SignatureFor allocated parameters result? signature) :
    generator.SlotsFor allocated (parameters ++ result?.toList) signature.slots := by
  refine List.rel_append fits.parameters ?_
  have last := fits.result
  revert last
  generalize signature.result? = slot?
  rintro (slotFor | _)
  · exact .cons slotFor .nil
  · exact .nil

/-- The fields of methods, with the names and types of their parameters and results. -/
theorem slots_methods {owner : Api.Info} {nodes : List MethodNode} {fields : List Code.Field}
    (fits : List.Forall₂ (generator.MethodFor allocated owner) nodes fields) :
    generator.SlotsFor allocated (nodes.flatMap slotNodes) (fields.flatMap (·.slots)) := by
  refine List.rel_flatMap fits fun node field methodFor => ?_
  obtain ⟨signature, signatureFor, type⟩ := methodFor.type
  rw [Code.Field.slots, type]
  exact slots_signature signatureFor

/-- The declaration of an entity that waited. -/
theorem slots_pending {pending : Pending} {declaration : Code.Declaration}
    (fits : generator.DeclarationFor allocated pending declaration) :
    generator.SlotsFor allocated (pendingNodes pending) declaration.slots := by
  cases fits with
  | enumeration kind =>
    rw [pendingNodes, kind]
    exact .nil
  | function kind tag signatureFor =>
    have nodes : pendingNodes pending = pending.node.parameters := by
      simp [pendingNodes, kind, tag]
    have slots := slots_signature signatureFor
    rw [Option.toList_none, List.append_nil] at slots
    rw [nodes]
    exact slots
  | composite kind tag _ fieldsFor =>
    have nodes : pendingNodes pending = pending.node.properties := by
      simp [pendingNodes, kind, tag]
    rw [nodes]
    exact slots_fields fieldsFor

theorem slots_primary {symbol : String} {primary : List Code.Declaration}
    (fits : generator.PrimaryFor allocated block symbol primary) :
    generator.SlotsFor allocated (blockNodes block) (primary.flatMap (·.slots)) := by
  have all {handle : Code.Handle} {fields : List Code.Field}
      (structure' : generator.StructureFor allocated block (blockProperties block)
        (blockMethods block) handle fields) :
      generator.SlotsFor allocated (blockNodes block) (fields.flatMap (·.slots)) := by
    obtain ⟨values, calls, rfl, fieldsFor, methodsFor⟩ := structure'.fields
    rw [List.flatMap_append]
    exact List.rel_append (slots_fields fieldsFor) (slots_methods methodsFor)
  cases fits with
  | plain _ structure' => simpa [Code.Declaration.slots] using all structure'
  | withEvents _ _ structure' => simpa [Code.Declaration.slots] using all structure'

/-- The properties in the declaration of an entity are one level below it. -/
theorem pendingNodes_subset (pending : Pending) :
    pendingNodes pending ⊆ pending.node.children := by
  unfold pendingNodes
  split
  · exact List.nil_subset _
  · split
    · exact List.subset_append_right _ _
    · exact List.subset_append_left _ _

/-- What a pass that succeeds writes. -/
theorem slots_emission {reserved : List String} {start pass : Pass} {count : Nat}
    (builtin : generator.templates = .builtin)
    (started : Pass.start generator block reserved = .ok start)
    (run : Emit.Runs (generator.emission block) start count pass) :
    generator.SlotsFor pass.allocated (passNodes block pass)
      (pass.sink.declarations.flatMap (·.slots)) := by
  obtain ⟨primary, nested, primaryFor, progress, -, -⟩ := progress_emission builtin started run
  rw [progress.written, List.flatMap_append]
  refine List.rel_append (slots_primary primaryFor) ?_
  exact List.rel_flatMap progress.nested fun _ _ fits => slots_pending fits

/-! ### What a pass writes and the review sees -/

/-- A name with a type that a pass writes for a property. If the type of the property is malformed,
the review lists the property, and a basic type in its place is the dynamic one. -/
structure SlotReviewed (generator : Generator) (block : Block) (allocated : List String)
    (node : PropertyNode) (slot : Code.Slot) : Prop where
  /-- The name and the type are those of the property. -/
  fits : generator.SlotFor allocated node.property slot
  /-- A malformed one is listed. -/
  listed : node.property.info.rawType.isMalformed = true →
    ∃ path, (path, node) ∈ malformedNodes block
  /-- It gets the dynamic type. -/
  dynamic : node.property.info.rawType.isMalformed = true →
    ∀ expression, slot.type = .basic expression →
      ∃ type, generator.types.dynamic = .ok type ∧ expression = type.name

/-- What a pass writes, and what the review sees of it. -/
structure PassReviewed (generator : Generator) (block : Block) (pass : Pass) : Prop where
  /-- The names with types are those of properties. -/
  slots : List.Forall₂ (generator.SlotReviewed block pass.allocated) (passNodes block pass)
    (pass.sink.declarations.flatMap (·.slots))
  /-- An entity with a declaration of its own is listed if its type is malformed. -/
  declared : ∀ pending ∈ pass.declared,
    pending.node.property.info.rawType.isMalformed = true →
      ∃ path, (path, pending.node) ∈ malformedNodes block

/-- All malformed properties that a pass can come to are listed. -/
theorem exists_malformed_of_descends {node : PropertyNode}
    (below : PropertyNode.Descends (blockNodes block) node)
    (malformed : node.property.info.rawType.isMalformed = true) :
    ∃ path, (path, node) ∈ malformedNodes block := by
  obtain ⟨path, reviewed⟩ := exists_reviewed_of_descends below
  exact ⟨path, List.mem_filter.mpr ⟨mem_reviewNodes_iff.mpr reviewed, malformed⟩⟩

/-- A malformed type has the dynamic type in its place. -/
theorem TypeFor.exists_dynamic {allocated : List String} {property : Property} {expression : Json}
    (fits : generator.TypeFor allocated property (.basic expression))
    (malformed : property.info.rawType.isMalformed = true) :
    ∃ type, generator.types.dynamic = .ok type ∧ expression = type.name := by
  cases fits with
  | @basic found _ _ known =>
    have none : property.tag = none := (Api.RawType.tag_eq_none_iff _).mpr malformed
    rw [none, TypeSettings.basicType, TypeSettings.basicTypeOf, if_pos rfl, bind_eq_ok_iff] at known
    obtain ⟨type, dynamic, same⟩ := known
    cases same
    exact ⟨type, dynamic, rfl⟩

/-- A pass comes to properties that are listed if they are malformed. -/
theorem passReviewed_of_runs {reserved : List String} {start pass : Pass} {count : Nat}
    (builtin : generator.templates = .builtin)
    (started : Pass.start generator block reserved = .ok start)
    (run : Emit.Runs (generator.emission block) start count pass) :
    generator.PassReviewed block pass := by
  obtain ⟨_, _, -, progress, -, -⟩ := progress_emission builtin started run
  have declared : ∀ pending ∈ pass.declared,
      PropertyNode.Descends (blockNodes block) pending.node := fun pending member =>
    progress.waits.descends pending (by simp [member])
  have come : ∀ node ∈ passNodes block pass, PropertyNode.Descends (blockNodes block) node := by
    intro node member
    rcases List.mem_append.mp member with own | nested
    · exact .root own
    · obtain ⟨pending, pendingMember, inside⟩ := List.mem_flatMap.mp nested
      exact (declared pending pendingMember).child (pendingNodes_subset pending inside)
  constructor
  · have slots := (List.forall₂_and_left _ _).mpr ⟨come, slots_emission builtin started run⟩
    refine slots.imp fun node slot ⟨below, fits⟩ => ⟨fits, exists_malformed_of_descends below, ?_⟩
    intro malformed expression basic
    have type := fits.type
    rw [basic] at type
    exact type.exists_dynamic malformed
  · exact fun pending member => exists_malformed_of_descends (declared pending member)

/-- Malformed types are reported: for every block there is one warning for each property with a
malformed type, wherever it stands, and no other warning about the block reads like one of these.
So whatever a pass writes for a malformed type has a warning of its own. -/
theorem malformed_types_reviewed (configured : Generator.ofSettings settings = .ok generator)
    (schema : Schema) :
    (settings.IsDeclared → ∃ remarks, generator.review schema = .ok remarks) ∧
    (∀ remarks, generator.review schema = .ok remarks →
      ∃ parts rest, remarks = parts.flatten ++ rest ∧
        List.Forall₂ WarnsOfMalformed schema.blocks parts ∧
        ∀ remark ∈ rest, ∀ name path,
          remark.message ≠ (Remark.malformedProperty name path).message) ∧
    ∀ block ∈ schema.blocks,
      ((malformedNodes block).map (·.2.id)).Nodup ∧
      (∀ path node, (path, node) ∈ malformedNodes block ↔
        Reviewed block path node ∧ node.property.info.rawType.isMalformed = true) ∧
      ∀ reserved start count pass, Pass.start generator block reserved = .ok start →
        Emit.Runs (generator.emission block) start count pass →
        generator.PassReviewed block pass := by
  refine ⟨fun declared => exists_review_of_isDeclared declared configured schema,
    fun remarks => exists_parts_of_review, fun block _ => ⟨?_, fun path node => ?_, ?_⟩⟩
  · exact (nodup_reviewNodes block).sublist (List.filter_sublist.map _)
  · rw [malformedNodes, List.mem_filter, mem_reviewNodes_iff]
  · intro reserved start count pass started run
    exact passReviewed_of_runs (templates_ofSettings configured) started run

/-- A module with malformed types of a property and of what is in it, of a parameter and a result,
and in the payload of an event that is not declared for a module. -/
def malformedBlockSample : Block where
  info := { name := "a", rawType := .single "Module" }
  properties :=
    [{ info := { name := "point", rawType := .malformed }
       properties := [{ info := { name := "x", rawType := .malformed } }] }]
  methods :=
    [{ info := { name := "move" }
       parameters := [{ info := { name := "by", rawType := .malformed } }]
       returns := some { info := { rawType := .malformed } } }]
  instanceEvents :=
    [{ info := { name := "moved" }
       returns := [{ info := { name := "to", rawType := .malformed } }] }]

/-- A description with this block alone. -/
def malformedSample : Schema where
  source := .string "s.json"
  blocks := [malformedBlockSample]

/-- The names and types that a pass over a block writes under the default settings. -/
def slotTexts? (block : Block) : Option (List String) := do
  let generator ← (Generator.ofSettings {}).toOption
  let start ← (Pass.start generator block []).toOption
  let ended := (generator.emission block).outcome start
  let _ ← ended.1.toOption
  return (ended.2.sink.declarations.flatMap (·.slots)).map (·.text)

theorem malformed_types_reviewed_sample :
    ∃ generator, Generator.ofSettings {} = .ok generator ∧
      (∃ part rest, generator.review malformedSample = .ok (part ++ rest) ∧
        (part.filter (·.isMalformedProperty)).map (·.message) =
          ["Malformed type on a.point - using dynamic handle",
            "Malformed type on a.point.x - using dynamic handle",
            "Malformed type on a.move.by - using dynamic handle",
            "Malformed type on a.move.<unnamed> - using dynamic handle",
            "Malformed type on a.moved.to - using dynamic handle"]) ∧
      ∃ pass, generator.PassReviewed malformedBlockSample pass ∧
        (pass.sink.declarations.flatMap (·.slots)).map (·.text) =
          ["Point *js.Object", "By *js.Object", "Obj *js.Object"] := by
  have wrote : slotTexts? malformedBlockSample =
      some ["Point *js.Object", "By *js.Object", "Obj *js.Object"] := by
    decide +kernel
  have warned : (malformedNodes malformedBlockSample).map (·.1) =
      ["point", "point.x", "move.by", "move.<unnamed>", "moved.to"] := by
    decide +kernel
  simp only [slotTexts?, Option.bind_eq_bind, Option.bind_eq_some_iff, toOption_eq_some_iff,
    Option.pure_def, Option.some.injEq] at wrote
  obtain ⟨generator, configured, start, started, count, ended, texts⟩ := wrote
  obtain ⟨reviews, warns, blocks⟩ :=
    malformed_types_reviewed configured malformedSample
  obtain ⟨remarks, reviewed⟩ := reviews Settings.isDeclared_default
  obtain ⟨parts, rest, rfl, each, -⟩ := warns remarks reviewed
  obtain ⟨part, _, warnings, none, rfl⟩ := List.forall₂_cons_left_iff.mp each
  cases none
  obtain ⟨-, -, passes⟩ := blocks _ (List.mem_singleton_self _)
  refine ⟨generator, configured, ⟨part, rest, ?_, ?_⟩, _,
    passes [] start count _ started (Prod.ext ended rfl), texts⟩
  · simpa using reviewed
  · rw [warnings.warned, List.map_map]
    have messages := congrArg (·.map fun path =>
      (Remark.malformedProperty malformedBlockSample.name path).message) warned
    simp only [List.map_map] at messages
    exact messages.trans (by decide +kernel)

end Generator

end HostBindings
