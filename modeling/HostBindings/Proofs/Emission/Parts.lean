import HostBindings.Proofs.Emission.Growth

/-!
# The parts of a declaration

What a description says of a property, a method, an event or a member is what its generated part
has: the symbol of its name, the type of its tag or the name of a nested declaration, its comments
and its tag. Getting a part only queues the nodes it needs.

## Main definitions

* `Generator.TypeFor`, `Generator.SlotFor`, `Generator.SignatureFor` — types and what has one
* `Generator.FieldFor`, `Generator.MethodFor`, `Generator.HandleFor` — fields
* `Generator.EventFor`, `Generator.MemberFor` — constants

## Main results

* `Generator.queues_slotOf`, `Generator.queues_signatureOf`
* `Generator.queues_fieldOf`, `Generator.queues_methodFieldOf`, `Generator.grows_hostHandle`
* `Generator.grows_checkedConstant`, `Generator.grows_memberOf`
-/

namespace HostBindings.Generator

open Api (Block Info Property)

variable {generator : Generator} {allocated more : List String} {p q : Pass}

/-! ### Types -/

/-- The type that a property has in generated code; `allocated` are the names of nested
entities. -/
inductive TypeFor (generator : Generator) (allocated : List String) (property : Property) :
    Code.TypeName → Prop where
  /-- The type of a basic tag. -/
  | basic {type : BindingType} : property.isEnum = false → property.kind = .basic →
      generator.types.basicType property.tag = .ok type →
      TypeFor generator allocated property (.basic type.name)
  /-- The name of a nested entity. -/
  | nested {name : String} : name ∈ allocated →
      TypeFor generator allocated property (.nested name)

theorem TypeFor.mono {property : Property} {type : Code.TypeName} (subset : allocated ⊆ more)
    (fits : generator.TypeFor allocated property type) : generator.TypeFor more property type := by
  cases fits with
  | basic plain kind found => exact .basic plain kind found
  | nested member => exact .nested (subset member)

theorem TypeFor.uses_subset {property : Property} {type : Code.TypeName}
    (fits : generator.TypeFor allocated property type) : type.uses ⊆ allocated := by
  cases fits with
  | basic => exact List.nil_subset _
  | nested member => exact List.cons_subset.mpr ⟨member, List.nil_subset _⟩

theorem hashed_eq_ok {value hashed : Json} (same : value.hashed = .ok hashed) :
    hashed = value := by
  unfold Json.hashed at same
  split at same
  · exact (Except.ok.inj same).symm
  · cases same

/-- The only import that a type expression can need is the host package. -/
theorem eq_hostImport_of_typeOf {types : TypeSettings} {name : Json} {type : BindingType}
    (found : types.typeOf name = .ok type) : ∀ path ∈ type.imports, path = types.hostImport := by
  obtain ⟨imports, needed, same⟩ := bind_eq_ok_iff.mp found
  cases same
  unfold TypeSettings.importsFor at needed
  split at needed
  · cases needed
    simp
  · obtain ⟨_, -, needed⟩ := bind_eq_ok_iff.mp needed
    split at needed
    · obtain ⟨path, hashed, same⟩ := bind_eq_ok_iff.mp needed
      cases same
      simpa using hashed_eq_ok hashed
    · cases needed
      simp

theorem eq_hostImport_of_dynamic {types : TypeSettings} {type : BindingType}
    (found : types.dynamic = .ok type) : ∀ path ∈ type.imports, path = types.hostImport := by
  obtain ⟨plain, inner, same⟩ := bind_eq_ok_iff.mp found
  cases same
  intro path member
  exact eq_hostImport_of_typeOf inner path member

/-- So it is with the type of a tag. -/
theorem eq_hostImport_of_basicType {types : TypeSettings} {tag : Option String}
    {type : BindingType} (found : types.basicType tag = .ok type) :
    ∀ path ∈ type.imports, path = types.hostImport := by
  -- along the look-up of a tag; only types that are set and the handle have imports
  have values (tag : Json) (found : types.basicTypeOf tag = .ok type) :
      ∀ path ∈ type.imports, path = types.hostImport := by
    unfold TypeSettings.basicTypeOf at found
    split at found
    · obtain ⟨plain, inner, same⟩ := bind_eq_ok_iff.mp found
      cases same
      intro path member
      exact eq_hostImport_of_dynamic inner path member
    · simp only [bind_eq_ok_iff] at found
      obtain ⟨override, -, found⟩ := found
      split at found
      · exact eq_hostImport_of_typeOf found
      · obtain ⟨_, -, found⟩ := bind_eq_ok_iff.mp found
        split at found
        · cases found
          simp
        · exact eq_hostImport_of_dynamic found
  cases tag with
  | none => exact values _ found
  | some tag => exact values _ found

theorem grows_requireImport {path : Json} {u : PUnit} (host : path = generator.types.hostImport)
    (run : Emit.Runs (Emit.requireImport path) p u q) : generator.Grows p q [] [] := by
  unfold Emit.requireImport at run
  split at run
  · simp only [Emit.runs_bind, Emit.runs_setting, Emit.runs_modify] at run
    obtain ⟨_, _, ⟨hashed, rfl⟩, step⟩ := run
    rw [hashed_eq_ok hashed, host] at step
    exact .of_import step
  · obtain ⟨-, rfl⟩ := Emit.runs_pure.mp run
    exact .refl _

theorem grows_useType {type : BindingType} {u : PUnit}
    (host : ∀ path ∈ type.imports, path = generator.types.hostImport)
    (run : Emit.Runs (useType type) p u q) : generator.Grows p q [] [] := by
  unfold useType at run
  generalize type.imports = paths at host run
  induction paths generalizing p with
  | nil =>
    obtain ⟨-, rfl⟩ := Emit.runs_pure.mp run
    exact .refl _
  | cons path rest ih =>
    obtain ⟨m, first, others⟩ := Emit.runs_forM_cons.mp run
    have now := grows_requireImport (host path List.mem_cons_self) first
    exact now.trans (ih (fun path member => host path (List.mem_cons_of_mem _ member)) others)

/-- The type of a property is the name of a nested entity, or the type of its tag, which is used
then. -/
theorem typeNameOf_cases {node : PropertyNode} {parent : Option Entity} {type : Code.TypeName}
    (run : Emit.Runs (generator.typeNameOf node parent) p type q) :
    (∃ kind name, Emit.Runs (Emit.register generator kind node parent) p name q ∧
      type = .nested name) ∨
    ∃ basic, node.property.isEnum = false ∧ node.property.kind = .basic ∧
      generator.types.basicType node.property.tag = .ok basic ∧
      Emit.Runs (useType basic) p () q ∧ type = .basic basic.name := by
  unfold typeNameOf at run
  split at run
  · simp only [Emit.runs_bind, Emit.runs_pure] at run
    obtain ⟨name, _, register, rfl, rfl⟩ := run
    exact .inl ⟨_, name, register, rfl⟩
  next plain =>
    split at run
    next kind =>
      simp only [Emit.runs_bind, Emit.runs_setting, Emit.runs_pure] at run
      obtain ⟨basic, _, ⟨found, rfl⟩, _, _, used, rfl, rfl⟩ := run
      exact .inr ⟨basic, by simpa using plain, kind, found, used, rfl⟩
    next =>
      simp only [Emit.runs_bind, Emit.runs_pure] at run
      obtain ⟨name, _, register, rfl, rfl⟩ := run
      exact .inl ⟨_, name, register, rfl⟩

/-- A property has the type of its tag, or waits for a declaration of its own. -/
theorem queues_typeNameOf {node : PropertyNode} {parent : Option Entity} {type : Code.TypeName}
    (run : Emit.Runs (generator.typeNameOf node parent) p type q) :
    generator.TypeFor q.allocated node.property type ∧ generator.Queues p q [node] := by
  rcases typeNameOf_cases run with
    ⟨_, name, register, rfl⟩ | ⟨basic, plain, kind, found, used, rfl⟩
  · obtain ⟨member, queues⟩ := queues_register register
    exact ⟨.nested member, queues⟩
  · have grows := grows_useType (eq_hostImport_of_basicType found) used
    exact ⟨.basic plain kind found, .of_grows grows⟩

/-! ### Slots and signatures -/

/-- A property as a name and a type. -/
structure SlotFor (generator : Generator) (allocated : List String) (property : Property)
    (slot : Code.Slot) : Prop where
  /-- The name is the symbol of the property. -/
  name : generator.baseSymbol property.info = .ok slot.name
  /-- The type is the one of the property. -/
  type : generator.TypeFor allocated property slot.type

theorem SlotFor.mono {property : Property} {slot : Code.Slot} (subset : allocated ⊆ more)
    (fits : generator.SlotFor allocated property slot) : generator.SlotFor more property slot :=
  ⟨fits.name, fits.type.mono subset⟩

/-- The parameters and the result of a function, each as a name and a type. -/
structure SignatureFor (generator : Generator) (allocated : List String)
    (parameters : List PropertyNode) (result? : Option PropertyNode)
    (signature : Code.Signature) : Prop where
  /-- A slot for each parameter. -/
  parameters : List.Forall₂ (fun node slot => generator.SlotFor allocated node.property slot)
    parameters signature.parameters
  /-- A slot for the result. -/
  result : Option.Rel (fun node slot => generator.SlotFor allocated node.property slot)
    result? signature.result?

theorem SignatureFor.mono {parameters : List PropertyNode} {result? : Option PropertyNode}
    {signature : Code.Signature} (subset : allocated ⊆ more)
    (fits : generator.SignatureFor allocated parameters result? signature) :
    generator.SignatureFor more parameters result? signature where
  parameters := fits.parameters.imp fun _ _ slot => slot.mono subset
  result := by
    have result := fits.result
    revert result
    generalize signature.result? = slot?
    rintro (slot | _)
    · exact .some (slot.mono subset)
    · exact .none

/-- A signature relies on nested entities only. -/
theorem SignatureFor.uses_subset {parameters : List PropertyNode}
    {result? : Option PropertyNode} {signature : Code.Signature}
    (fits : generator.SignatureFor allocated parameters result? signature) :
    signature.uses ⊆ allocated := by
  intro name member
  obtain ⟨slot, slotMember, used⟩ := List.mem_flatMap.mp member
  rcases List.mem_append.mp slotMember with parameter | result
  · obtain ⟨_, -, slotFor⟩ := exists_item_of_mem fits.parameters parameter
    exact slotFor.type.uses_subset used
  · have fit := fits.result
    rw [Option.mem_toList.mp result] at fit
    cases fit with
    | some slotFor => exact slotFor.type.uses_subset used

/-- A property has a slot, and waits if it needs a declaration of its own. -/
theorem queues_slotOf {node : PropertyNode} {parent : Option Entity} {slot : Code.Slot}
    (run : Emit.Runs (generator.slotOf node parent) p slot q) :
    generator.SlotFor q.allocated node.property slot ∧ generator.Queues p q [node] := by
  simp only [slotOf, Emit.runs_bind, Emit.runs_setting, Emit.runs_pure] at run
  obtain ⟨name, _, ⟨spelt, rfl⟩, type, _, typed, rfl, rfl⟩ := run
  obtain ⟨fits, queues⟩ := queues_typeNameOf typed
  exact ⟨⟨spelt, fits⟩, queues⟩

/-- A signature has a slot for each parameter and for the result. -/
theorem queues_signatureOf {owner : Entity} {parameters : List PropertyNode}
    {result? : Option PropertyNode} {signature : Code.Signature}
    (run : Emit.Runs (generator.signatureOf owner parameters result?) p signature q) :
    generator.SignatureFor q.allocated parameters result? signature ∧
      generator.Queues p q (parameters ++ result?.toList) := by
  simp only [signatureOf, Emit.runs_bind] at run
  obtain ⟨slots, m, slotted, run⟩ := run
  obtain ⟨fits, queues⟩ := queues_mapM (fun node => [node])
    (fun allocated node slot => generator.SlotFor allocated node.property slot)
    (fun subset fits => fits.mono subset) queues_slotOf slotted
  rw [List.flatMap_singleton'] at queues
  cases result? with
  | none =>
    obtain ⟨rfl, rfl⟩ := Emit.runs_pure.mp run
    exact ⟨⟨fits, .none⟩, by simpa using queues⟩
  | some node =>
    simp only [Emit.runs_bind, Emit.runs_pure] at run
    obtain ⟨result, _, last, rfl, rfl⟩ := run
    obtain ⟨fit, more⟩ := queues_slotOf last
    refine ⟨⟨fits.imp fun _ _ fits => fits.mono more.allocated_subset, .some fit⟩, ?_⟩
    exact queues.trans more

/-! ### Fields -/

/-- The field of a property of an owner. -/
structure FieldFor (generator : Generator) (allocated : List String) (owner : Info)
    (node : PropertyNode) (field : Code.Field) : Prop where
  /-- The comments are those of the property. -/
  comments : field.comments = generator.docLines node.property.info
  /-- The field is the slot of the property. -/
  slot : ∃ slot : Code.Slot, generator.SlotFor allocated node.property slot ∧
    field.name = slot.name ∧ field.type = .value slot.type
  /-- The tag is the one of the property. -/
  tag : field.tag = generator.fieldTag node.property.info (some owner)

theorem FieldFor.mono {owner : Info} {node : PropertyNode} {field : Code.Field}
    (subset : allocated ⊆ more) (fits : generator.FieldFor allocated owner node field) :
    generator.FieldFor more owner node field := by
  obtain ⟨slot, slotFor, same⟩ := fits.slot
  exact ⟨fits.comments, ⟨slot, slotFor.mono subset, same⟩, fits.tag⟩

/-- The field of a method of an owner. -/
structure MethodFor (generator : Generator) (allocated : List String) (owner : Info)
    (node : MethodNode) (field : Code.Field) : Prop where
  /-- The comments are those of the method. -/
  comments : field.comments = generator.docLines node.method.info
  /-- The name is the symbol of the method. -/
  name : generator.baseSymbol node.method.info = .ok field.name
  /-- The type is the signature of the method. -/
  type : ∃ signature, generator.SignatureFor allocated node.parameters node.result? signature ∧
    field.type = .function signature
  /-- The tag is the one of the method. -/
  tag : field.tag = generator.fieldTag node.method.info (some owner)

theorem MethodFor.mono {owner : Info} {node : MethodNode} {field : Code.Field}
    (subset : allocated ⊆ more) (fits : generator.MethodFor allocated owner node field) :
    generator.MethodFor more owner node field := by
  obtain ⟨signature, fit, same⟩ := fits.type
  exact ⟨fits.comments, fits.name, ⟨signature, fit.mono subset, same⟩, fits.tag⟩

theorem FieldFor.uses_subset {owner : Info} {node : PropertyNode} {field : Code.Field}
    (fits : generator.FieldFor allocated owner node field) : field.type.uses ⊆ allocated := by
  obtain ⟨slot, slotFor, -, same⟩ := fits.slot
  rw [same]
  exact slotFor.type.uses_subset

theorem MethodFor.uses_subset {owner : Info} {node : MethodNode} {field : Code.Field}
    (fits : generator.MethodFor allocated owner node field) : field.type.uses ⊆ allocated := by
  obtain ⟨signature, fit, same⟩ := fits.type
  rw [same]
  exact fit.uses_subset

/-- The properties that are declared with a method: its parameters and its result. -/
def slotNodes (node : MethodNode) : List PropertyNode :=
  node.parameters ++ node.result?.toList

theorem queues_fieldOf {parent : Entity} {node : PropertyNode} {field : Code.Field}
    (run : Emit.Runs (generator.fieldOf parent node) p field q) :
    generator.FieldFor q.allocated parent.info node field ∧ generator.Queues p q [node] := by
  simp only [fieldOf, Emit.runs_bind, Emit.runs_pure] at run
  obtain ⟨slot, _, slotted, rfl, rfl⟩ := run
  obtain ⟨fits, queues⟩ := queues_slotOf slotted
  exact ⟨⟨rfl, ⟨slot, fits, rfl, rfl⟩, rfl⟩, queues⟩

theorem queues_methodFieldOf {parent : Entity} {node : MethodNode} {field : Code.Field}
    (run : Emit.Runs (generator.methodFieldOf parent node) p field q) :
    generator.MethodFor q.allocated parent.info node field ∧
      generator.Queues p q (slotNodes node) := by
  simp only [methodFieldOf, methodTypeOf, Emit.runs_bind, Emit.runs_setting,
    Emit.runs_pure] at run
  obtain ⟨_, _, ⟨signature, _, signed, name, _, ⟨spelt, rfl⟩, rfl, rfl⟩, rfl, rfl⟩ := run
  obtain ⟨fits, queues⟩ := queues_signatureOf signed
  exact ⟨⟨rfl, spelt, ⟨signature, fits, rfl⟩, rfl⟩, queues⟩

/-- The handle of the host object, as the settings name it. -/
structure HandleFor (generator : Generator) (handle : Code.Handle) : Prop where
  /-- The name of the field is the one of the settings. -/
  field : handle.field = generator.settings.hostField
  /-- The type is the one of the settings. -/
  type : ∃ type, generator.types.hostHandle = .ok type ∧ handle.type = type.name

theorem grows_hostHandle {handle : Code.Handle}
    (run : Emit.Runs generator.hostHandle p handle q) :
    generator.HandleFor handle ∧ generator.Grows p q [] [] := by
  simp only [hostHandle, Emit.runs_bind, Emit.runs_setting, Emit.runs_pure] at run
  obtain ⟨type, _, ⟨found, rfl⟩, _, _, used, rfl, rfl⟩ := run
  exact ⟨⟨rfl, type, found, rfl⟩, grows_useType (eq_hostImport_of_typeOf found) used⟩

/-! ### Constants -/

/-- The constant of an event: its comments, and its name in the host as a literal. -/
structure EventFor (generator : Generator) (event : Api.Event) (constant : Code.Constant) :
    Prop where
  /-- The comments are those of the event. -/
  comments : constant.comments = generator.docLines event.info
  /-- The value is the name of the event. -/
  literal : constant.literal = Text.quote event.info.name

/-- The constant of a member of an enumeration. -/
structure MemberFor (generator : Generator) (quoted : Bool) (value : Api.PossibleValue)
    (constant : Code.Constant) : Prop where
  /-- The comments are those of the member. -/
  comments : constant.comments = generator.docLines value.info
  /-- The value is the literal of the member, between quotation marks for a text. -/
  literal : constant.literal = if quoted then Text.quote value.literal else value.literal

theorem grows_warn {message : String} {u : PUnit} (run : Emit.Runs (Emit.warn message) p u q) :
    generator.Grows p q [] [] := by
  simp only [Emit.warn, Emit.note, Emit.runs_bind, Emit.runs_get, Emit.runs_modify] at run
  obtain ⟨_, _, ⟨rfl, rfl⟩, _, _, rfl, rfl⟩ := run
  exact .of_same rfl rfl rfl rfl

theorem grows_checkEventName {name : String} {u : PUnit}
    (run : Emit.Runs (generator.checkEventName name) p u q) : generator.Grows p q [] [] := by
  unfold checkEventName at run
  split at run
  · obtain ⟨-, rfl⟩ := Emit.runs_pure.mp run
    exact .refl _
  · split at run
    · exact absurd run Emit.runs_throw
    · exact grows_warn run

/-- The constant of an event claims its name. -/
theorem grows_eventConstant {comments : List String} {name : String} {constant : Code.Constant}
    (run : Emit.Runs (generator.eventConstant comments name) p constant q) :
    constant.comments = comments ∧ constant.literal = Text.quote name ∧
      generator.Grows p q [constant.name] [] := by
  simp only [eventConstant, Emit.runs_bind, Emit.runs_setting, Emit.runs_get,
    Emit.runs_pure] at run
  obtain ⟨lead, _, ⟨led, rfl⟩, symbol, _, ⟨spelt, rfl⟩, _, _, ⟨rfl, rfl⟩, identifier, _, claim,
    rfl, rfl⟩ := run
  obtain ⟨-, grows⟩ := grows_claim claim fun made =>
    ((Makes.lead led).append made.stem).append (.symbol spelt)
  exact ⟨rfl, rfl, grows⟩

theorem grows_checkedConstant {event : Api.Event} {constant : Code.Constant}
    (run : Emit.Runs (generator.checkedConstant event) p constant q) :
    generator.EventFor event constant ∧ generator.Grows p q [constant.name] [] := by
  obtain ⟨_, m, checked, run⟩ := Emit.runs_bind.mp run
  obtain ⟨comments, literal, grows⟩ := grows_eventConstant run
  exact ⟨⟨comments, literal⟩, by simpa using (grows_checkEventName checked).trans grows⟩

/-- A member of an enumeration claims a name behind the name of the enumeration. -/
theorem grows_memberOf {name : String} {quoted : Bool} (made : generator.Makes name)
    {value : Api.PossibleValue} {constant : Code.Constant}
    (run : Emit.Runs (generator.memberOf name quoted value) p constant q) :
    generator.MemberFor quoted value constant ∧ generator.Grows p q [constant.name] [] := by
  simp only [memberOf, Emit.runs_bind, Emit.runs_setting, Emit.runs_pure] at run
  obtain ⟨symbol, _, ⟨spelt, rfl⟩, member, _, claim, rfl, rfl⟩ := run
  obtain ⟨-, grows⟩ := grows_claim claim fun _ => made.append (.symbol spelt)
  exact ⟨⟨rfl, rfl⟩, grows⟩

end HostBindings.Generator
