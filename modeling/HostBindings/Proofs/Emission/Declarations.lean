import HostBindings.Proofs.Emission.Parts

/-!
# Whole declarations

What is declared for the events of a block, for the block itself, and for an entity that waits. Each
declaration is made of the parts that the description asks for. Making one claims exactly the names
that it declares beyond its own, and queues nodes one level below the one it is made for.

## Main definitions

* `PropertyNode.children` — the nodes one level below a node
* `Generator.EventsFor`, `Generator.StructureFor` — the primary declarations of a block
* `Generator.BaseFor`, `Generator.DeclarationFor` — the declaration of an entity that waits
* `Generator.Declares` — what making a declaration does to the state of a pass

## Main results

* `Generator.grows_eventsDeclaration`, `Generator.queues_structureOf`
* `Generator.declares_pendingDeclaration` — nested declarations
-/

namespace HostBindings

/-- The nodes one level below a node: its fields, then its parameters. -/
def PropertyNode.children (node : PropertyNode) : List PropertyNode :=
  node.properties ++ node.parameters

namespace Generator

open Api (Block Info Property)

variable {generator : Generator} {allocated more : List String} {p q : Pass}

/-! ### Primary declarations -/

/-- The constants of events: one for each, in order. -/
structure EventsFor (generator : Generator) (symbol : String) (events : List Api.Event)
    (comments : List String) (constants : List Code.Constant) : Prop where
  /-- The comment names the block. -/
  comments : comments =
    if generator.settings.commentsOn then [s!"// Events emitted by {symbol}."] else []
  /-- A constant for each event. -/
  constants : List.Forall₂ generator.EventFor events constants

theorem grows_eventsDeclaration {events : List Api.Event} {declaration : Code.Declaration}
    (run : Emit.Runs (generator.eventsDeclaration events) p declaration q) :
    ∃ comments constants, declaration = .events comments constants ∧
      generator.EventsFor p.scope.symbol events comments constants ∧
      generator.Grows p q (constants.map (·.name)) [] := by
  simp only [eventsDeclaration, Emit.runs_bind, Emit.runs_get, Emit.runs_pure] at run
  obtain ⟨constants, _, mapped, _, _, ⟨rfl, rfl⟩, rfl, rfl⟩ := run
  obtain ⟨fits, grows⟩ := grows_mapM grows_checkedConstant mapped
  exact ⟨_, constants, rfl, ⟨by rw [grows.symbol], fits⟩, grows⟩

/-- The structure of a block: a field for each property, then one for each method. -/
structure StructureFor (generator : Generator) (allocated : List String) (block : Block)
    (properties : List PropertyNode) (methods : List MethodNode) (handle : Code.Handle)
    (fields : List Code.Field) : Prop where
  /-- The handle of the settings. -/
  handle : generator.HandleFor handle
  /-- The fields of the properties, then those of the methods. -/
  fields : ∃ values calls, fields = values ++ calls ∧
    List.Forall₂ (generator.FieldFor allocated block.info) properties values ∧
    List.Forall₂ (generator.MethodFor allocated block.info) methods calls

theorem StructureFor.mono {block : Block} {properties : List PropertyNode}
    {methods : List MethodNode} {handle : Code.Handle} {fields : List Code.Field}
    (subset : allocated ⊆ more)
    (fits : generator.StructureFor allocated block properties methods handle fields) :
    generator.StructureFor more block properties methods handle fields := by
  obtain ⟨values, calls, rfl, fieldsFor, methodsFor⟩ := fits.fields
  exact ⟨fits.handle, values, calls, rfl, fieldsFor.imp fun _ _ field => field.mono subset,
    methodsFor.imp fun _ _ field => field.mono subset⟩

/-- The structure of a block relies on nested entities only. -/
theorem StructureFor.uses_subset {block : Block} {properties : List PropertyNode}
    {methods : List MethodNode} {handle : Code.Handle} {fields : List Code.Field}
    (fits : generator.StructureFor allocated block properties methods handle fields) :
    fields.flatMap (·.type.uses) ⊆ allocated := by
  obtain ⟨values, calls, rfl, fieldsFor, methodsFor⟩ := fits.fields
  intro name member
  obtain ⟨field, fieldMember, used⟩ := List.mem_flatMap.mp member
  rcases List.mem_append.mp fieldMember with value | call
  · obtain ⟨_, -, fieldFor⟩ := exists_item_of_mem fieldsFor value
    exact fieldFor.uses_subset used
  · obtain ⟨_, -, methodFor⟩ := exists_item_of_mem methodsFor call
    exact methodFor.uses_subset used

theorem queues_structureOf {block : Block} {properties : List PropertyNode}
    {methods : List MethodNode} {declaration : Code.Declaration}
    (run : Emit.Runs (generator.structureOf block properties methods) p declaration q) :
    ∃ handle fields,
      declaration = .composite (generator.docLines block.info) p.scope.symbol handle fields ∧
      generator.StructureFor q.allocated block properties methods handle fields ∧
      generator.Queues p q (properties ++ methods.flatMap slotNodes) := by
  simp only [structureOf, Emit.runs_bind, Emit.runs_get, Emit.runs_pure] at run
  obtain ⟨handle, _, handled, values, _, valued, calls, _, called, _, _, ⟨rfl, rfl⟩, rfl, rfl⟩ :=
    run
  obtain ⟨handleFor, grows⟩ := grows_hostHandle handled
  obtain ⟨fieldsFor, queues⟩ := queues_mapM (fun node => [node])
    (fun allocated => generator.FieldFor allocated block.info)
    (fun subset fits => fits.mono subset) queues_fieldOf valued
  obtain ⟨methodsFor, others⟩ := queues_mapM slotNodes
    (fun allocated => generator.MethodFor allocated block.info)
    (fun subset fits => fits.mono subset) queues_methodFieldOf called
  rw [List.flatMap_singleton'] at queues
  have none : generator.Queues p _ [] := .of_grows grows
  have all := none.trans (queues.trans others)
  refine ⟨handle, values ++ calls, ?_, ⟨handleFor, values, calls, rfl, ?_, methodsFor⟩, all⟩
  · obtain ⟨queued, grows, -⟩ := all
    rw [grows.symbol]
  · exact fieldsFor.imp fun _ _ field => field.mono others.allocated_subset

/-! ### Nested declarations -/

/-- The base type of an enumeration: the type of its tag if all literals fit it, else the type of
texts. -/
def BaseFor (generator : Generator) (property : Property) (base : Json) : Prop :=
  ∃ type, generator.types.basicType property.tag = .ok type ∧
    base =
      match literalType? generator.types type.name (property.possibleValues.map (·.literal)) with
      | some true => type.name
      | _ => generator.types.stringType

theorem grows_enumBaseType {pending : Pending} {base : Json}
    (run : Emit.Runs (generator.enumBaseType pending) p base q) :
    generator.BaseFor pending.node.property base ∧ generator.Grows p q [] [] := by
  simp only [enumBaseType, Emit.runs_bind, Emit.runs_setting] at run
  obtain ⟨type, _, ⟨found, rfl⟩, run⟩ := run
  split at run
  next unknown =>
    obtain ⟨rfl, rfl⟩ := Emit.runs_pure.mp run
    exact ⟨⟨type, found, by rw [unknown]⟩, .refl _⟩
  next fits =>
    obtain ⟨rfl, rfl⟩ := Emit.runs_pure.mp run
    exact ⟨⟨type, found, by rw [fits]⟩, .refl _⟩
  next unfit =>
    simp only [Emit.runs_bind, Emit.runs_pure] at run
    obtain ⟨_, _, warned, rfl, rfl⟩ := run
    exact ⟨⟨type, found, by rw [unfit]⟩, grows_warn warned⟩

/-- The declaration of an entity that waits under a name. -/
inductive DeclarationFor (generator : Generator) (allocated : List String) (pending : Pending) :
    Code.Declaration → Prop where
  /-- An enumeration has a member for each possible value. -/
  | enumeration {base : Json} {members : List Code.Constant} :
      pending.kind = .constants → generator.BaseFor pending.node.property base →
      List.Forall₂ (generator.MemberFor (base.agrees generator.types.stringType))
        pending.node.property.possibleValues members →
      DeclarationFor generator allocated pending
        (.enumeration (generator.docLines pending.node.property.info) pending.name base members)
  /-- A function type has the parameters of the entity, and no result. -/
  | function {signature : Code.Signature} :
      pending.kind = .composite → pending.node.property.kind = .function →
      generator.SignatureFor allocated pending.node.parameters none signature →
      DeclarationFor generator allocated pending
        (.function (generator.docLines pending.node.property.info) pending.name signature)
  /-- A structure has a field for each property. -/
  | composite {handle : Code.Handle} {fields : List Code.Field} :
      pending.kind = .composite → pending.node.property.kind ≠ .function →
      generator.HandleFor handle →
      List.Forall₂ (generator.FieldFor allocated pending.node.property.info)
        pending.node.properties fields →
      DeclarationFor generator allocated pending
        (.composite (generator.docLines pending.node.property.info) pending.name handle fields)

namespace DeclarationFor

variable {pending : Pending} {declaration : Code.Declaration}

theorem mono (subset : allocated ⊆ more)
    (fits : generator.DeclarationFor allocated pending declaration) :
    generator.DeclarationFor more pending declaration := by
  cases fits with
  | enumeration kind base members => exact .enumeration kind base members
  | function kind tag signature => exact .function kind tag (signature.mono subset)
  | composite kind tag handle fields =>
    exact .composite kind tag handle (fields.imp fun _ _ field => field.mono subset)

/-- What waits is declared under its name. -/
theorem typeName? (fits : generator.DeclarationFor allocated pending declaration) :
    declaration.typeName? = some pending.name := by
  cases fits <;> rfl

/-- The name of what waits comes first among the names that are declared. -/
theorem names (fits : generator.DeclarationFor allocated pending declaration) :
    declaration.names = pending.name :: declaration.names.tail := by
  cases fits <;> rfl

/-- A nested declaration relies on nested entities only. -/
theorem uses_subset (fits : generator.DeclarationFor allocated pending declaration) :
    declaration.uses ⊆ allocated := by
  cases fits with
  | enumeration => exact List.nil_subset _
  | function _ _ signature => exact signature.uses_subset
  | composite _ _ _ fields =>
    intro name member
    obtain ⟨field, fieldMember, used⟩ := List.mem_flatMap.mp member
    obtain ⟨_, -, fieldFor⟩ := exists_item_of_mem fields fieldMember
    exact fieldFor.uses_subset used

end DeclarationFor

/-- A pass makes a declaration: it claims the names that are declared beyond the first, and queues
some of the given nodes. -/
def Declares (generator : Generator) (p q : Pass) (declaration : Code.Declaration)
    (nodes : List PropertyNode) : Prop :=
  ∃ queued : List Queued,
    generator.Grows p q (queued.map (·.name) ++ declaration.names.tail) queued ∧
      (queued.map (·.node)).Sublist nodes

theorem Declares.allocated_subset {declaration : Code.Declaration} {nodes : List PropertyNode}
    (declares : generator.Declares p q declaration nodes) : p.allocated ⊆ q.allocated := by
  obtain ⟨queued, grows, -⟩ := declares
  rw [grows.allocated]
  exact List.subset_append_left _ _

private theorem Queues.declares {declaration : Code.Declaration} {nodes others : List PropertyNode}
    (queues : generator.Queues p q nodes) (sub : nodes.Sublist others)
    (single : declaration.names.tail = []) : generator.Declares p q declaration others := by
  obtain ⟨queued, grows, within⟩ := queues
  exact ⟨queued, by simpa [single] using grows, within.trans sub⟩

/-- What waits gets the declaration of its kind, and what that needs is one level below. -/
theorem declares_pendingDeclaration {pending : Pending} {declaration : Code.Declaration}
    (made : generator.Makes pending.name)
    (run : Emit.Runs (generator.pendingDeclaration pending) p declaration q) :
    generator.DeclarationFor q.allocated pending declaration ∧
      generator.Declares p q declaration pending.node.children := by
  unfold pendingDeclaration at run
  -- members of enumerations only claim names; parameters, results and fields queue what is below
  split at run
  next kind =>
    simp only [enumerationOf, Emit.runs_bind, Emit.runs_pure] at run
    obtain ⟨base, _, based, members, _, mapped, rfl, rfl⟩ := run
    obtain ⟨baseFor, grows⟩ := grows_enumBaseType based
    obtain ⟨membersFor, claims⟩ := grows_mapM (grows_memberOf made) mapped
    refine ⟨.enumeration kind baseFor membersFor, [], ?_, List.nil_sublist _⟩
    simpa [Code.Declaration.names] using grows.trans claims
  next kind tag =>
    simp only [functionOf, Emit.runs_bind, Emit.runs_pure] at run
    obtain ⟨signature, _, signed, rfl, rfl⟩ := run
    obtain ⟨signatureFor, queues⟩ := queues_signatureOf signed
    refine ⟨.function kind tag signatureFor, queues.declares ?_ rfl⟩
    rw [Option.toList_none, List.append_nil]
    exact List.sublist_append_right _ _
  next => exact absurd run Emit.runs_throw
  next kind notFunction _ =>
    simp only [compositeOf, Emit.runs_bind, Emit.runs_pure] at run
    obtain ⟨handle, _, handled, fields, _, mapped, rfl, rfl⟩ := run
    obtain ⟨handleFor, grows⟩ := grows_hostHandle handled
    obtain ⟨fieldsFor, queues⟩ := queues_mapM (fun node => [node])
      (fun allocated => generator.FieldFor allocated pending.node.property.info)
      (fun subset fits => fits.mono subset) queues_fieldOf mapped
    rw [List.flatMap_singleton'] at queues
    have none : generator.Queues p _ [] := .of_grows grows
    exact ⟨.composite kind notFunction handleFor fieldsFor,
      (none.trans queues).declares (List.sublist_append_left _ _) rfl⟩

end Generator

end HostBindings
