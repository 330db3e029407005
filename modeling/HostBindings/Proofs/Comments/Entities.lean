import HostBindings.Proofs.Comments.Lines
import HostBindings.Proofs.Emission.Drain
import HostBindings.Proofs.Layout.Notes

/-!
# The comments on entities

What a pass writes as a comment on an entity is the comment of an entity in the block. The one other
comment of a pass stands over the constants of events, and names the block. So all comments are
single lines if no text that becomes one as it is has a line feed, nor has the symbol of the block.

## Main definitions

* `Api.Property.infos`, `Api.Block.infos` — what is said of the entities in a property and a block
* `Api.Block.isSingle`, `Api.Schema.isSingle` — descriptions whose texts make single lines
* `Generator.Comments` — the comments of a declaration

## Main results

* `Generator.comments_of_runs` — what a pass writes
* `Generator.Comments.isNote` — when it is single lines
-/

namespace HostBindings

namespace Api

mutual
/-- What is said of a property and the entities in it. -/
def Property.infos : Property → List Info
  | ⟨info, properties, parameters, possibleValues⟩ =>
    info :: (infosOf properties ++ infosOf parameters ++ possibleValues.map (·.info))

/-- What is said of properties and the entities in them. -/
def infosOf : List Property → List Info
  | [] => []
  | property :: rest => property.infos ++ infosOf rest
end

/-- What is said of an event and its payload. -/
def Event.infos (event : Event) : List Info := event.info :: infosOf event.returns

/-- What is said of a method, its parameters and its result. -/
def Method.infos (method : Method) : List Info :=
  method.info :: (infosOf method.parameters ++ infosOf method.returns.toList)

/-- What is said of a block and the entities in it. -/
def Block.infos (block : Block) : List Info :=
  block.info :: ((block.events ++ block.instanceEvents).flatMap (·.infos) ++
    infosOf (block.properties ++ block.instanceProperties) ++
    (block.methods ++ block.instanceMethods ++ block.staticMethods ++
      block.constructorMethod.toList).flatMap (·.infos))

/-- Whether the platforms and the package metadata in a block have no line feeds. -/
def Block.isSingle (block : Block) : Bool := block.infos.all (·.isSingle)

/-- Whether the platforms, the package metadata and the source of a description have no line
feeds. -/
def Schema.isSingle (schema : Schema) : Bool :=
  Api.isSingle schema.source.text && schema.blocks.all (·.isSingle)

theorem mem_infosOf {properties : List Property} {info : Info} :
    info ∈ infosOf properties ↔ ∃ property ∈ properties, info ∈ property.infos := by
  induction properties with
  | nil => simp [infosOf]
  | cons property rest ih => simp [infosOf, ih]

/-- The entities in a property: itself, and those in its fields, parameters and members. -/
theorem Property.mem_infos {property : Property} {info : Info} :
    info ∈ property.infos ↔ info = property.info ∨
      (∃ other ∈ property.properties ++ property.parameters, info ∈ other.infos) ∨
      ∃ value ∈ property.possibleValues, info = value.info := by
  obtain ⟨own, properties, parameters, possibleValues⟩ := property
  simp only [Property.infos, List.mem_cons, List.mem_append, mem_infosOf, List.mem_map]
  grind

theorem Property.info_mem_infos (property : Property) : property.info ∈ property.infos :=
  mem_infos.mpr (.inl rfl)

end Api

open Api (Block Info Property)
open Layout (IsNote)

namespace Generator

variable {generator : Generator} {block : Block}

/-! ### Entities of a block -/

/-- The entities below nodes of a block are entities of the block. -/
theorem infos_subset_of_descends {roots : List PropertyNode} {node : PropertyNode}
    {infos : List Info} (known : ∀ root ∈ roots, root.property.infos ⊆ infos)
    (below : PropertyNode.Descends roots node) : node.property.infos ⊆ infos := by
  refine below.closed (·.infos ⊆ infos) (fun property known other member info there => ?_) known
  exact known (Property.mem_infos.mpr (.inr (.inl ⟨other, member, there⟩)))

theorem infos_subset_of_mem_blockEvents {event : Api.Event} (member : event ∈ blockEvents block) :
    event.infos ⊆ block.infos := by
  intro info there
  have within := List.mem_flatMap.mpr ⟨event, mem_of_mem_blockEvents member, there⟩
  exact List.mem_cons_of_mem _ (List.mem_append_left _ (List.mem_append_left _ within))

theorem infos_subset_of_mem_blockProperties {node : PropertyNode}
    (member : node ∈ blockProperties block) : node.property.infos ⊆ block.infos := by
  intro info there
  have within := Api.mem_infosOf.mpr ⟨_, mem_of_mem_blockProperties member, there⟩
  exact List.mem_cons_of_mem _ (List.mem_append_left _ (List.mem_append_right _ within))

theorem infos_subset_of_mem_blockMethods {node : MethodNode}
    (member : node ∈ blockMethods block) : node.method.infos ⊆ block.infos := by
  intro info there
  have known := List.mem_append_left block.constructorMethod.toList
    (List.mem_append_left block.staticMethods (mem_of_mem_blockMethods member))
  have within := List.mem_flatMap.mpr ⟨_, known, there⟩
  exact List.mem_cons_of_mem _ (List.mem_append_right _ within)

/-- The properties that are declared with a block stand in the block. -/
theorem infos_subset_of_mem_blockNodes {node : PropertyNode} (member : node ∈ blockNodes block) :
    node.property.infos ⊆ block.infos := by
  rcases List.mem_append.mp member with property | slot
  · exact infos_subset_of_mem_blockProperties property
  · obtain ⟨method, there, slot⟩ := List.mem_flatMap.mp slot
    intro info known
    refine infos_subset_of_mem_blockMethods there (List.mem_cons_of_mem _ ?_)
    rw [List.mem_append, Api.mem_infosOf, Api.mem_infosOf]
    rcases List.mem_append.mp (mem_of_mem_slotNodes slot) with parameter | result
    · exact .inl ⟨_, parameter, known⟩
    · exact .inr ⟨_, result, known⟩

/-! ### Comments of declarations -/

/-- Comments on entities, of which something is said in given places. -/
def Documents (generator : Generator) (infos : List Info) (comments : List String) : Prop :=
  ∀ line ∈ comments, ∃ info ∈ infos, line ∈ generator.docLines info

namespace Documents

variable {infos more : List Info} {comments others : List String}

theorem mono (subset : infos ⊆ more) (documents : generator.Documents infos comments) :
    generator.Documents more comments := by
  intro line member
  obtain ⟨info, known, there⟩ := documents line member
  exact ⟨info, subset known, there⟩

theorem append (documents : generator.Documents infos comments)
    (documents' : generator.Documents infos others) :
    generator.Documents infos (comments ++ others) := by
  intro line member
  rcases List.mem_append.mp member with first | second
  · exact documents line first
  · exact documents' line second

theorem docLines {info : Info} (known : info ∈ infos) :
    generator.Documents infos (generator.docLines info) := fun _ there => ⟨info, known, there⟩

/-- Each of some items has the comments of an entity. -/
theorem flatMap {α β : Type} {items : List α} {parts : List β} {related : α → β → Prop}
    (all : List.Forall₂ related items parts) (comments : β → List String) (info : α → Info)
    (same : ∀ item part, related item part → comments part = generator.docLines (info item))
    (known : ∀ item ∈ items, info item ∈ infos) :
    generator.Documents infos (parts.flatMap comments) := by
  intro line member
  obtain ⟨part, there, comment⟩ := List.mem_flatMap.mp member
  obtain ⟨item, mine, fits⟩ := exists_item_of_mem all there
  exact ⟨info item, known item mine, same item part fits ▸ comment⟩

/-- Comments on entities are single lines if what is said of the entities makes such lines. -/
theorem isNote (documents : generator.Documents infos comments)
    (single : ∀ info ∈ infos, info.isSingle = true) : ∀ line ∈ comments, IsNote line := by
  intro line member
  obtain ⟨info, known, there⟩ := documents line member
  exact isNote_docLines generator (single info known) line there

end Documents

/-- The comments of a declaration: on entities of a block, and over the constants of events the
symbol of the block. -/
structure Comments (generator : Generator) (block : Block) (symbol : String)
    (declaration : Code.Declaration) : Prop where
  /-- The comments on entities. -/
  docs : generator.Documents block.infos declaration.docs
  /-- The comment over the constants of events. -/
  heading : declaration.heading ⊆ [s!"// Events emitted by {symbol}."]

variable {allocated : List String}

theorem documents_fields {owner : Info} {infos : List Info} {nodes : List PropertyNode}
    {fields : List Code.Field} (known : ∀ node ∈ nodes, node.property.infos ⊆ infos)
    (fits : List.Forall₂ (generator.FieldFor allocated owner) nodes fields) :
    generator.Documents infos (fields.flatMap (·.comments)) :=
  .flatMap fits _ (·.property.info) (fun _ _ field => field.comments)
    fun node there => known node there node.property.info_mem_infos

/-- The declaration of what waits has comments on what waits and on the entities in it. -/
theorem documents_of_declarationFor {pending : Pending} {declaration : Code.Declaration}
    (fits : generator.DeclarationFor allocated pending declaration) :
    generator.Documents pending.node.property.infos declaration.docs ∧
      declaration.heading = [] := by
  have own : generator.Documents pending.node.property.infos
      (generator.docLines pending.node.property.info) :=
    .docLines pending.node.property.info_mem_infos
  cases fits with
  | enumeration _ _ members =>
    refine ⟨own.append (.flatMap members _ (·.info) (fun _ _ member => member.comments) ?_), rfl⟩
    exact fun value there => Property.mem_infos.mpr (.inr (.inr ⟨value, there, rfl⟩))
  | function _ _ _ => exact ⟨own, rfl⟩
  | composite _ _ _ fields =>
    refine ⟨own.append (documents_fields (fun node there info known => ?_) fields), rfl⟩
    exact Property.mem_infos.mpr (.inr (.inl ⟨_, List.mem_append_left _ (mem_below there), known⟩))

/-- The structure of a block has comments on the block, and on its properties and methods. -/
theorem documents_of_structureFor {handle : Code.Handle} {fields : List Code.Field}
    (fits : generator.StructureFor allocated block (blockProperties block) (blockMethods block)
      handle fields) :
    generator.Documents block.infos
      (generator.docLines block.info ++ fields.flatMap (·.comments)) := by
  obtain ⟨values, calls, rfl, fieldsFor, methodsFor⟩ := fits.fields
  refine .append (.docLines List.mem_cons_self) ?_
  rw [List.flatMap_append]
  refine .append (documents_fields (fun _ => infos_subset_of_mem_blockProperties) fieldsFor) ?_
  refine .flatMap methodsFor _ (·.method.info) (fun _ _ call => call.comments) fun node there => ?_
  exact infos_subset_of_mem_blockMethods there List.mem_cons_self

/-- What is declared for a block itself has such comments. -/
theorem comments_of_primaryFor {symbol : String} {primary : List Code.Declaration}
    (fits : generator.PrimaryFor allocated block symbol primary) :
    ∀ declaration ∈ primary, generator.Comments block symbol declaration := by
  cases fits with
  | plain _ structureFor =>
    rw [List.forall_mem_singleton]
    exact ⟨documents_of_structureFor structureFor, List.nil_subset _⟩
  | withEvents _ events structureFor =>
    rw [List.forall_mem_cons, List.forall_mem_singleton]
    refine ⟨⟨?_, ?_⟩, documents_of_structureFor structureFor, List.nil_subset _⟩
    · refine .flatMap events.constants _ (·.info) (fun _ _ event => event.comments) ?_
      exact fun event there => infos_subset_of_mem_blockEvents there List.mem_cons_self
    · rw [Code.Declaration.heading, events.comments]
      split
      · exact List.Subset.refl _
      · exact List.nil_subset _

/-- The comments that a pass writes are those on entities of its block, and its symbol over the
constants of events. -/
theorem comments_of_runs {reserved : List String} {start pass : Pass} {count : Nat}
    (builtin : generator.templates = .builtin)
    (started : Pass.start generator block reserved = .ok start)
    (run : Emit.Runs (generator.emission block) start count pass) :
    ∀ declaration ∈ pass.sink.declarations,
      generator.Comments block start.scope.symbol declaration := by
  obtain ⟨primary, nested, fits, progress, -⟩ := progress_emission builtin started run
  intro declaration member
  rw [progress.written] at member
  rcases List.mem_append.mp member with first | later
  · exact comments_of_primaryFor fits declaration first
  · obtain ⟨pending, there, declarationFor⟩ := exists_item_of_mem progress.nested later
    obtain ⟨documents, none⟩ := documents_of_declarationFor declarationFor
    have below := progress.waits.descends pending (by simp [there])
    have within := infos_subset_of_descends (fun _ => infos_subset_of_mem_blockNodes) below
    refine ⟨documents.mono within, ?_⟩
    rw [none]
    exact List.nil_subset _

end Generator

end HostBindings
