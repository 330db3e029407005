import HostBindings.Api.Reading
import HostBindings.Proofs.Json.Documents

/-!
# The grammar of descriptions

Which JSON values describe a node, and which node a value describes. A node is an object. What it
says of processes is switched off or an object, what it says of platforms is switched off or a list.
Each of its collections has no value or is a list of nodes, in the order in which they are
described; the result of a method and the constructor of a block have no value or are nodes
themselves. All other members of an object are free.

Some of these others are kept as texts, and not every value has a text: one with an integer of too
many digits has none. The grammar leaves open which values have texts. It describes the form of a
document where all values have one, and what can be read where just those do that have one.

The grammar says which values are accepted, and the relations `…Of` which tree a value stands for;
a value stands for a tree exactly if the grammar accepts it.

## Main definitions

* `Api.HasText`, `Api.AnyText` — values that have a text, and any values
* `Api.WellMarked`, `Api.Collects` — the conditions on the members of a node
* `Api.IsPossibleValue`, `Api.IsProperty`, `Api.IsEvent`, `Api.IsMethod`, `Api.IsBlock`,
  `Api.IsDescription` — the grammar
* `Api.PossibleValueOf`, `Api.PropertyOf`, `Api.EventOf`, `Api.MethodOf`, `Api.BlockOf` — the trees

## Main results

* `Api.exists_propertyOf_iff`, `Api.exists_eventOf_iff`, `Api.exists_methodOf_iff`,
  `Api.exists_blockOf_iff` — the values that stand for a tree
* `Api.IsDescription.mono` — where more values have texts, more is accepted
-/

namespace HostBindings.Api

open Json (Members)

/-! ### Members of a node -/

/-- A value has a text if none of its integers has more digits than are written. -/
def HasText (value : Json) : Prop := value.longestInteger ≤ Json.digitLimit

/-- Where only the form of a document counts, every value may have a text. -/
def AnyText (_ : Json) : Prop := True

theorem hasText_array {items : List Json} :
    HasText (.array items) ↔ ∀ item ∈ items, HasText item := Json.measureItems_le

theorem hasText_object {members : Members} :
    HasText (.object members) ↔ ∀ member ∈ members, HasText member.2 := Json.measureMembers_le

/-- The text of a key; empty without a value. -/
def textOf (members : Members) (key : String) : String :=
  match present? members key with
  | some value => value.text
  | none => ""

/-- The platforms that a node is limited to, before they are texts. -/
def platformItems (members : Members) : List Json :=
  match members.get? "platforms" with
  | some (.array items) => items
  | _ => []

/-- The keys that every node keeps the texts of. -/
def commonKeys : List String := ["name", "description", "version", "repoUrl", "websiteUrl", "slug"]

section Members

variable (Texts : Json → Prop)

/-- The value of a key has a text, or there is none. -/
def Spelt (members : Members) (key : String) : Prop :=
  ∀ value, present? members key = some value → Texts value

/-- What a node says of processes and platforms, and its texts. Processes and platforms are looked
up in the plain spelling. -/
structure WellMarked (members : Members) : Prop where
  /-- The processes are switched off, or an object. -/
  process : ∀ value, members.get? "process" = some value →
    value.truthy = false ∨ ∃ marks, value = .object marks
  /-- The platforms are switched off, or a list. -/
  platforms : ∀ value, members.get? "platforms" = some value →
    value.truthy = false ∨ ∃ items, value = .array items
  /-- Each platform has a text. -/
  listed : ∀ item ∈ platformItems members, Texts item
  /-- So have the other values that are kept as texts. -/
  texts : ∀ key ∈ commonKeys, Spelt Texts members key

end Members

/-- The items of a collection: those of a list, and none where there is no value. -/
def Collects (members : Members) (key : String) (items : List Json) : Prop :=
  present? members key = none ∧ items = [] ∨ present? members key = some (.array items)

/-- The processes that a node is marked for. -/
def processesOf (members : Members) : Processes :=
  match members.get? "process" with
  | some (.object marks) => ⟨flagOf marks "main", flagOf marks "renderer"⟩
  | _ => {}

/-- The common part of a node. -/
def infoOf (members : Members) : Info where
  name := textOf members "name"
  rawType := readRawType ((members.get? "type").getD .null)
  description := textOf members "description"
  platforms := (platformItems members).map Json.text
  processes := processesOf members
  required := flagOf members "required"
  version := textOf members "version"
  repoUrl := textOf members "repoUrl"
  websiteUrl := textOf members "websiteUrl"
  slug := textOf members "slug"

/-! ### The grammar -/

section Grammar

variable (Texts : Json → Prop)

/-- A member of an enumeration. -/
def IsPossibleValue (value : Json) : Prop :=
  ∃ members, value = .object members ∧ WellMarked Texts members ∧ Spelt Texts members "value"

/-- A property. -/
inductive IsProperty : Json → Prop
  /-- Its fields and parameters are properties, its possible values members of an enumeration. -/
  | node {members : Members} {fields parameters values : List Json} : WellMarked Texts members →
      Collects members "properties" fields → (∀ item ∈ fields, IsProperty item) →
      Collects members "parameters" parameters → (∀ item ∈ parameters, IsProperty item) →
      Collects members "possibleValues" values → (∀ item ∈ values, IsPossibleValue Texts item) →
      IsProperty (.object members)

/-- A collection of nodes of a kind. -/
def IsCollection (IsNode : Json → Prop) (members : Members) (key : String) : Prop :=
  ∃ items, Collects members key items ∧ ∀ item ∈ items, IsNode item

theorem isProperty_iff {value : Json} : IsProperty Texts value ↔
    ∃ members, value = .object members ∧ WellMarked Texts members ∧
      IsCollection (IsProperty Texts) members "properties" ∧
      IsCollection (IsProperty Texts) members "parameters" ∧
      IsCollection (IsPossibleValue Texts) members "possibleValues" := by
  constructor
  · rintro ⟨marks, fields, fieldsFit, parameters, parametersFit, values, valuesFit⟩
    exact ⟨_, rfl, marks, ⟨_, fields, fieldsFit⟩, ⟨_, parameters, parametersFit⟩,
      ⟨_, values, valuesFit⟩⟩
  · rintro ⟨_, rfl, marks, ⟨_, fields, fieldsFit⟩, ⟨_, parameters, parametersFit⟩,
      ⟨_, values, valuesFit⟩⟩
    exact .node marks fields fieldsFit parameters parametersFit values valuesFit

/-- An event. Its payload is a collection of properties. -/
def IsEvent (value : Json) : Prop :=
  ∃ members, value = .object members ∧ WellMarked Texts members ∧
    IsCollection (IsProperty Texts) members "returns"

/-- A method. Its result is a property, if it has one. -/
def IsMethod (value : Json) : Prop :=
  ∃ members, value = .object members ∧ WellMarked Texts members ∧
    Spelt Texts members "signature" ∧ IsCollection (IsProperty Texts) members "parameters" ∧
    ∀ result, present? members "returns" = some result → IsProperty Texts result

/-- A block. Its constructor is a method, if it has one. -/
structure IsBlockNode (members : Members) : Prop where
  /-- What is said of processes and platforms. -/
  marks : WellMarked Texts members
  /-- The name of an instance. -/
  instanceName : Spelt Texts members "instanceName"
  /-- The events of a module. -/
  events : IsCollection (IsEvent Texts) members "events"
  /-- The properties of a module or structure. -/
  properties : IsCollection (IsProperty Texts) members "properties"
  /-- The methods of a module. -/
  methods : IsCollection (IsMethod Texts) members "methods"
  /-- The events of a class. -/
  instanceEvents : IsCollection (IsEvent Texts) members "instanceEvents"
  /-- The properties of a class. -/
  instanceProperties : IsCollection (IsProperty Texts) members "instanceProperties"
  /-- The methods of a class. -/
  instanceMethods : IsCollection (IsMethod Texts) members "instanceMethods"
  /-- The methods of a class itself. -/
  staticMethods : IsCollection (IsMethod Texts) members "staticMethods"
  /-- The constructor of a class. -/
  constructorMethod : ∀ method, present? members "constructorMethod" = some method →
    IsMethod Texts method

/-- A block. -/
def IsBlock (value : Json) : Prop := ∃ members, value = .object members ∧ IsBlockNode Texts members

/-- A description: a list of blocks. -/
def IsDescription (document : Json) : Prop :=
  ∃ items, document = .array items ∧ ∀ item ∈ items, IsBlock Texts item

end Grammar

/-! ### More values with texts -/

section Monotone

variable {Texts More : Json → Prop} {members : Members} {key : String} {value : Json}

theorem Spelt.mono (more : ∀ value, Texts value → More value) (spelt : Spelt Texts members key) :
    Spelt More members key := fun value found => more value (spelt value found)

theorem WellMarked.mono (more : ∀ value, Texts value → More value)
    (marks : WellMarked Texts members) : WellMarked More members where
  process := marks.process
  platforms := marks.platforms
  listed item member := more item (marks.listed item member)
  texts key common := (marks.texts key common).mono more

theorem IsCollection.mono {IsNode Other : Json → Prop} (more : ∀ value, IsNode value → Other value)
    (collection : IsCollection IsNode members key) : IsCollection Other members key :=
  collection.imp fun _ ⟨collects, nodes⟩ =>
    ⟨collects, fun item member => more item (nodes item member)⟩

theorem IsPossibleValue.mono (more : ∀ value, Texts value → More value)
    (node : IsPossibleValue Texts value) : IsPossibleValue More value :=
  node.imp fun _ ⟨object, marks, text⟩ => ⟨object, marks.mono more, text.mono more⟩

theorem IsProperty.mono (more : ∀ value, Texts value → More value)
    (node : IsProperty Texts value) : IsProperty More value := by
  induction node with
  | node marks fields _ parameters _ values inside fieldsIh parametersIh =>
    exact .node (marks.mono more) fields fieldsIh parameters parametersIh values
      fun item member => (inside item member).mono more

theorem IsEvent.mono (more : ∀ value, Texts value → More value) (node : IsEvent Texts value) :
    IsEvent More value :=
  node.imp fun _ ⟨object, marks, returns⟩ =>
    ⟨object, marks.mono more, returns.mono fun _ => .mono more⟩

theorem IsMethod.mono (more : ∀ value, Texts value → More value) (node : IsMethod Texts value) :
    IsMethod More value :=
  node.imp fun _ ⟨object, marks, signature, parameters, result⟩ =>
    ⟨object, marks.mono more, signature.mono more, parameters.mono fun _ => .mono more,
      fun value found => (result value found).mono more⟩

theorem IsBlock.mono (more : ∀ value, Texts value → More value) (node : IsBlock Texts value) :
    IsBlock More value := by
  obtain ⟨members, object, node⟩ := node
  have event (value : Json) : IsEvent Texts value → IsEvent More value := .mono more
  have property (value : Json) : IsProperty Texts value → IsProperty More value := .mono more
  have method (value : Json) : IsMethod Texts value → IsMethod More value := .mono more
  exact ⟨members, object,
    { marks := node.marks.mono more
      instanceName := node.instanceName.mono more
      events := node.events.mono event
      properties := node.properties.mono property
      methods := node.methods.mono method
      instanceEvents := node.instanceEvents.mono event
      instanceProperties := node.instanceProperties.mono property
      instanceMethods := node.instanceMethods.mono method
      staticMethods := node.staticMethods.mono method
      constructorMethod := fun value found => method value (node.constructorMethod value found) }⟩

/-- Where more values have texts, more is accepted. -/
theorem IsDescription.mono (more : ∀ value, Texts value → More value)
    (description : IsDescription Texts value) : IsDescription More value :=
  description.imp fun _ ⟨list, blocks⟩ =>
    ⟨list, fun item member => (blocks item member).mono more⟩

end Monotone

/-! ### Trees -/

/-- The nodes of a collection, in the order of its items. -/
def CollectionOf {α : Type} (Of : Json → α → Prop) (members : Members) (key : String)
    (nodes : List α) : Prop :=
  ∃ items, Collects members key items ∧ List.Forall₂ Of items nodes

/-- A member of an enumeration. -/
def PossibleValueOf (value : Json) (member : PossibleValue) : Prop :=
  ∃ members, value = .object members ∧ WellMarked HasText members ∧ Spelt HasText members "value" ∧
    member.info = infoOf members ∧ member.value = textOf members "value"

/-- A property, with everything below it. -/
inductive PropertyOf : Json → Property → Prop
  /-- Its fields, parameters and possible values stand in the order of the items. -/
  | node {members : Members} {fields parameters values : List Json} {property : Property} :
      WellMarked HasText members → property.info = infoOf members →
      Collects members "properties" fields → List.Forall₂ PropertyOf fields property.properties →
      Collects members "parameters" parameters →
      List.Forall₂ PropertyOf parameters property.parameters →
      Collects members "possibleValues" values →
      List.Forall₂ PossibleValueOf values property.possibleValues →
      PropertyOf (.object members) property

theorem propertyOf_iff {value : Json} {property : Property} :
    PropertyOf value property ↔
      ∃ members, value = .object members ∧ WellMarked HasText members ∧
        property.info = infoOf members ∧
        CollectionOf PropertyOf members "properties" property.properties ∧
        CollectionOf PropertyOf members "parameters" property.parameters ∧
        CollectionOf PossibleValueOf members "possibleValues" property.possibleValues := by
  constructor
  · rintro ⟨marks, info, fields, fieldsFit, parameters, parametersFit, values, valuesFit⟩
    exact ⟨_, rfl, marks, info, ⟨_, fields, fieldsFit⟩, ⟨_, parameters, parametersFit⟩,
      ⟨_, values, valuesFit⟩⟩
  · rintro ⟨_, rfl, marks, info, ⟨_, fields, fieldsFit⟩, ⟨_, parameters, parametersFit⟩,
      ⟨_, values, valuesFit⟩⟩
    exact .node marks info fields fieldsFit parameters parametersFit values valuesFit

/-- An event. -/
def EventOf (value : Json) (event : Event) : Prop :=
  ∃ members, value = .object members ∧ WellMarked HasText members ∧ event.info = infoOf members ∧
    CollectionOf PropertyOf members "returns" event.returns

/-- A method. -/
def MethodOf (value : Json) (method : Method) : Prop :=
  ∃ members, value = .object members ∧ WellMarked HasText members ∧ method.info = infoOf members ∧
    Spelt HasText members "signature" ∧ method.signature = textOf members "signature" ∧
    CollectionOf PropertyOf members "parameters" method.parameters ∧
    Option.Rel PropertyOf (present? members "returns") method.returns

/-- What stands in a block. -/
structure BlockNodeOf (members : Members) (block : Block) : Prop where
  /-- What is said of processes and platforms. -/
  marks : WellMarked HasText members
  /-- The common part. -/
  info : block.info = infoOf members
  /-- The name of an instance. -/
  instanceName : Spelt HasText members "instanceName" ∧
    block.instanceName = textOf members "instanceName"
  /-- The events of a module. -/
  events : CollectionOf EventOf members "events" block.events
  /-- The properties of a module or structure. -/
  properties : CollectionOf PropertyOf members "properties" block.properties
  /-- The methods of a module. -/
  methods : CollectionOf MethodOf members "methods" block.methods
  /-- The events of a class. -/
  instanceEvents : CollectionOf EventOf members "instanceEvents" block.instanceEvents
  /-- The properties of a class. -/
  instanceProperties :
    CollectionOf PropertyOf members "instanceProperties" block.instanceProperties
  /-- The methods of a class. -/
  instanceMethods : CollectionOf MethodOf members "instanceMethods" block.instanceMethods
  /-- The methods of a class itself. -/
  staticMethods : CollectionOf MethodOf members "staticMethods" block.staticMethods
  /-- The constructor of a class. -/
  constructorMethod :
    Option.Rel MethodOf (present? members "constructorMethod") block.constructorMethod

/-- A block. -/
def BlockOf (value : Json) (block : Block) : Prop :=
  ∃ members, value = .object members ∧ BlockNodeOf members block

/-! ### The values that stand for a tree -/

section Accepted

variable {α : Type} {Of : Json → α → Prop} {IsNode : Json → Prop} {members : Members}
  {key : String} {value : Json}

/-- The items of a collection are smaller than the node. -/
theorem Collects.sizeOf_lt {items : List Json} {item : Json}
    (collects : Collects members key items) (member : item ∈ items) :
    sizeOf item < sizeOf (Json.object members) := by
  rcases collects with ⟨-, rfl⟩ | found
  · cases member
  · have inside := List.sizeOf_lt_of_mem member
    have whole := sizeOf_present?_lt found
    rw [Json.array.sizeOf_spec] at whole
    omega

theorem exists_collectionOf_iff (each : ∀ {value}, (∃ node, Of value node) ↔ IsNode value) :
    (∃ nodes, CollectionOf Of members key nodes) ↔ IsCollection IsNode members key := by
  simp only [CollectionOf, IsCollection, ← each, ← exists_forall₂_iff]
  exact ⟨fun ⟨nodes, items, collects, fits⟩ => ⟨items, collects, nodes, fits⟩,
    fun ⟨items, collects, nodes, fits⟩ => ⟨nodes, items, collects, fits⟩⟩

theorem exists_rel_iff (each : ∀ {value}, (∃ node, Of value node) ↔ IsNode value)
    {value? : Option Json} :
    (∃ node?, Option.Rel Of value? node?) ↔ ∀ value, value? = some value → IsNode value := by
  cases value? with
  | none => exact iff_of_true ⟨none, .none⟩ (by simp)
  | some value =>
    simp only [Option.some.injEq, forall_eq', ← each]
    constructor
    · rintro ⟨_, fits⟩
      cases fits with
      | some fits => exact ⟨_, fits⟩
    · rintro ⟨node, fits⟩
      exact ⟨some node, .some fits⟩

theorem exists_possibleValueOf_iff :
    (∃ node, PossibleValueOf value node) ↔ IsPossibleValue HasText value := by
  constructor
  · rintro ⟨_, members, object, marks, value, -⟩
    exact ⟨members, object, marks, value⟩
  · rintro ⟨members, object, marks, value⟩
    exact ⟨⟨infoOf members, textOf members "value"⟩, members, object, marks, value, rfl, rfl⟩

theorem exists_propertyOf_iff : (∃ node, PropertyOf value node) ↔ IsProperty HasText value := by
  constructor
  · -- on the size of the value, since its items are smaller
    induction size : sizeOf value using Nat.strongRecOn generalizing value with
    | _ size ih =>
      rintro ⟨property, fits⟩
      cases fits with
      | node marks _ fields fieldsFit parameters parametersFit values valuesFit =>
        have below {key : String} {items : List Json} {nodes : List Property}
            (collects : Collects _ key items) (fits : List.Forall₂ PropertyOf items nodes) :
            ∀ item ∈ items, IsProperty HasText item := fun item member =>
          ih _ (size ▸ collects.sizeOf_lt member) rfl
            (exists_forall₂_iff.mp ⟨nodes, fits⟩ item member)
        refine .node marks fields (below fields fieldsFit) parameters
          (below parameters parametersFit) values fun item member => ?_
        exact exists_possibleValueOf_iff.mp (exists_forall₂_iff.mp ⟨_, valuesFit⟩ item member)
  · intro property
    induction property with
    | @node members _ _ _ marks fields _ parameters _ values accepted fieldsIh parametersIh =>
      obtain ⟨fieldNodes, fieldsFit⟩ := exists_forall₂_iff.mpr fieldsIh
      obtain ⟨parameterNodes, parametersFit⟩ := exists_forall₂_iff.mpr parametersIh
      obtain ⟨valueNodes, valuesFit⟩ := exists_forall₂_iff.mpr fun item member =>
        exists_possibleValueOf_iff.mpr (accepted item member)
      exact ⟨⟨infoOf members, fieldNodes, parameterNodes, valueNodes⟩,
        .node marks rfl fields fieldsFit parameters parametersFit values valuesFit⟩

theorem exists_eventOf_iff : (∃ node, EventOf value node) ↔ IsEvent HasText value := by
  constructor
  · rintro ⟨_, members, object, marks, -, returns⟩
    exact ⟨members, object, marks, (exists_collectionOf_iff exists_propertyOf_iff).mp ⟨_, returns⟩⟩
  · rintro ⟨members, object, marks, returns⟩
    obtain ⟨nodes, fits⟩ := (exists_collectionOf_iff exists_propertyOf_iff).mpr returns
    exact ⟨⟨infoOf members, nodes⟩, members, object, marks, rfl, fits⟩

theorem exists_methodOf_iff : (∃ node, MethodOf value node) ↔ IsMethod HasText value := by
  constructor
  · rintro ⟨_, members, object, marks, -, signature, -, parameters, result⟩
    exact ⟨members, object, marks, signature,
      (exists_collectionOf_iff exists_propertyOf_iff).mp ⟨_, parameters⟩,
      (exists_rel_iff exists_propertyOf_iff).mp ⟨_, result⟩⟩
  · rintro ⟨members, object, marks, signature, parameters, result⟩
    obtain ⟨nodes, fits⟩ := (exists_collectionOf_iff exists_propertyOf_iff).mpr parameters
    obtain ⟨node?, fit⟩ := (exists_rel_iff exists_propertyOf_iff).mpr result
    exact ⟨⟨infoOf members, textOf members "signature", nodes, node?⟩, members, object, marks, rfl,
      signature, rfl, fits, fit⟩

theorem exists_blockOf_iff : (∃ node, BlockOf value node) ↔ IsBlock HasText value := by
  -- collection by collection, and each of them item by item
  constructor
  · rintro ⟨_, members, object, node⟩
    refine ⟨members, object,
      ⟨node.marks, node.instanceName.1, ?_, ?_, ?_, ?_, ?_, ?_, ?_, ?_⟩⟩
    · exact (exists_collectionOf_iff exists_eventOf_iff).mp ⟨_, node.events⟩
    · exact (exists_collectionOf_iff exists_propertyOf_iff).mp ⟨_, node.properties⟩
    · exact (exists_collectionOf_iff exists_methodOf_iff).mp ⟨_, node.methods⟩
    · exact (exists_collectionOf_iff exists_eventOf_iff).mp ⟨_, node.instanceEvents⟩
    · exact (exists_collectionOf_iff exists_propertyOf_iff).mp ⟨_, node.instanceProperties⟩
    · exact (exists_collectionOf_iff exists_methodOf_iff).mp ⟨_, node.instanceMethods⟩
    · exact (exists_collectionOf_iff exists_methodOf_iff).mp ⟨_, node.staticMethods⟩
    · exact (exists_rel_iff exists_methodOf_iff).mp ⟨_, node.constructorMethod⟩
  · rintro ⟨members, object, node⟩
    obtain ⟨events, one⟩ := (exists_collectionOf_iff exists_eventOf_iff).mpr node.events
    obtain ⟨properties, two⟩ := (exists_collectionOf_iff exists_propertyOf_iff).mpr node.properties
    obtain ⟨methods, three⟩ := (exists_collectionOf_iff exists_methodOf_iff).mpr node.methods
    obtain ⟨instanceEvents, four⟩ :=
      (exists_collectionOf_iff exists_eventOf_iff).mpr node.instanceEvents
    obtain ⟨instanceProperties, five⟩ :=
      (exists_collectionOf_iff exists_propertyOf_iff).mpr node.instanceProperties
    obtain ⟨instanceMethods, six⟩ :=
      (exists_collectionOf_iff exists_methodOf_iff).mpr node.instanceMethods
    obtain ⟨staticMethods, seven⟩ :=
      (exists_collectionOf_iff exists_methodOf_iff).mpr node.staticMethods
    obtain ⟨constructorMethod, eight⟩ :=
      (exists_rel_iff exists_methodOf_iff).mpr node.constructorMethod
    let block : Block :=
      { info := infoOf members, events, properties, methods
        instanceName := textOf members "instanceName"
        instanceEvents, instanceProperties, instanceMethods, constructorMethod, staticMethods }
    exact ⟨block, members, object,
      ⟨node.marks, rfl, ⟨node.instanceName, rfl⟩, one, two, three, four, five, six, seven, eight⟩⟩

end Accepted

end HostBindings.Api
