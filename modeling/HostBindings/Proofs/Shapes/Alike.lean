import HostBindings.Declaration
import HostBindings.Proofs.Results
import HostBindings.Review

/-!
# Properties of one name and one shape

Two properties are alike if they have one name and one shape. Then what they contain is alike piece
by piece; and a property stays alike when properties in it, at any depth, are replaced by others
that are alike. Descriptions are compared the same way: their blocks are the same but for the
properties in them.

## Main definitions

* `Property.Alike` — one name and one shape
* `Info.Alike`, `Event.Alike`, `Method.Alike`, `Block.Alike` — entities that are told apart by
  comments alone
* `Property.Reworked` — properties at any depth replaced by others that are alike
* `Block.Matches`, `Schema.Matches` — the same but for the properties

## Main results

* `Property.Reworked.alike`
* `Block.Matches.alike`
* `nodeCount_eq_of_shape_eq`, `blockRemarks_eq` — what is read off properties of any depth
-/

namespace HostBindings

namespace Api

/-! ### Properties -/

theorem namedShapes_eq_map (properties : List Property) :
    namedShapes properties =
      properties.map fun property => (property.info.name, property.shape) := by
  induction properties with
  | nil => rfl
  | cons property rest ih => rw [namedShapes, ih, List.map_cons]

/-- Two properties have one name and one shape. -/
structure Property.Alike (a b : Property) : Prop where
  /-- They have one name. -/
  name : a.info.name = b.info.name
  /-- They have one shape. -/
  shape : a.shape = b.shape

/-- Lists of properties have the same names and shapes exactly where their items are alike. -/
theorem namedShapes_eq_iff {properties properties' : List Property} :
    namedShapes properties = namedShapes properties' ↔
      List.Forall₂ Property.Alike properties properties' := by
  rw [namedShapes_eq_map, namedShapes_eq_map, ← List.forall₂_eq_eq_eq, List.forall₂_map_left_iff,
    List.forall₂_map_right_iff]
  constructor
  · exact List.Forall₂.imp fun _ _ same => ⟨congrArg Prod.fst same, congrArg Prod.snd same⟩
  · exact List.Forall₂.imp fun _ _ alike => Prod.ext alike.name alike.shape

/-- Two members of enumerations have one name and one literal. -/
structure PossibleValue.Alike (a b : PossibleValue) : Prop where
  /-- They have one name. -/
  name : a.info.name = b.info.name
  /-- They have one literal. -/
  literal : a.literal = b.literal

/-- A shape is made of a tag, named shapes, and the names and literals of members. -/
theorem Property.shape_eq_iff {a b : Property} :
    a.shape = b.shape ↔
      a.tag = b.tag ∧ List.Forall₂ Alike a.properties b.properties ∧
        List.Forall₂ Alike a.parameters b.parameters ∧
        List.Forall₂ PossibleValue.Alike a.possibleValues b.possibleValues := by
  have values : (a.possibleValues.map fun value => (value.info.name, value.literal)) =
        (b.possibleValues.map fun value => (value.info.name, value.literal)) ↔
      List.Forall₂ PossibleValue.Alike a.possibleValues b.possibleValues := by
    rw [← List.forall₂_eq_eq_eq, List.forall₂_map_left_iff, List.forall₂_map_right_iff]
    constructor
    · exact List.Forall₂.imp fun _ _ same => ⟨congrArg Prod.fst same, congrArg Prod.snd same⟩
    · exact List.Forall₂.imp fun _ _ alike => Prod.ext alike.name alike.literal
  obtain ⟨info, properties, parameters, possibleValues⟩ := a
  obtain ⟨info', properties', parameters', possibleValues'⟩ := b
  simp only [Property.shape, Shape.mk.injEq, Property.tag, namedShapes_eq_iff, values]

namespace Property

variable {a b : Property}

@[refl] theorem Alike.refl (a : Property) : Alike a a := ⟨rfl, rfl⟩

theorem tag_eq_of_shape_eq (same : a.shape = b.shape) : a.tag = b.tag := (shape_eq_iff.mp same).1

theorem kind_eq_of_shape_eq (same : a.shape = b.shape) : a.kind = b.kind :=
  congrArg Kind.ofTag (tag_eq_of_shape_eq same)

/-- A property is an enumeration or none by its shape. -/
theorem isEnum_eq_of_shape_eq (same : a.shape = b.shape) : a.isEnum = b.isEnum := by
  exact congrArg (!·) (isEmpty_eq_of_forall₂ (shape_eq_iff.mp same).2.2.2)

/-- A type is malformed or not by the shape. -/
theorem isMalformed_eq_of_shape_eq (same : a.shape = b.shape) :
    a.info.rawType.isMalformed = b.info.rawType.isMalformed := by
  have tags : a.info.rawType.tag = b.info.rawType.tag := tag_eq_of_shape_eq same
  rw [Bool.eq_iff_iff, ← RawType.tag_eq_none_iff, ← RawType.tag_eq_none_iff, tags]

/-- Properties in a property, at any depth, replaced by others that are alike. -/
inductive Reworked : Property → Property → Prop where
  /-- The property itself is replaced. -/
  | here {a b : Property} : Alike a b → Reworked a b
  /-- Properties below it are. -/
  | inside {a b : Property} : a.info = b.info →
      List.Forall₂ Reworked a.properties b.properties →
      List.Forall₂ Reworked a.parameters b.parameters →
      a.possibleValues = b.possibleValues → Reworked a b

/-- Whatever is replaced below a property, its shape stays. -/
theorem Reworked.alike (reworked : Reworked a b) : Alike a b := by
  refine @Reworked.rec (fun a b _ => Alike a b)
    (fun properties properties' _ => List.Forall₂ Alike properties properties') ?_ ?_ ?_ ?_ a b
    reworked
  · exact fun alike => alike
  · intro a b info _ _ values fields parameters
    refine ⟨congrArg Info.name info, shape_eq_iff.mpr ⟨?_, fields, parameters, ?_⟩⟩
    · exact congrArg (·.rawType.tag) info
    · rw [values]
      exact List.forall₂_same.mpr fun _ _ => ⟨rfl, rfl⟩
  · exact .nil
  · exact fun _ _ first others => .cons first others

end Property

/-! ### Descriptions -/

/-- Two events are the same but for the properties in them, which are related. -/
structure Event.Matches (related : Property → Property → Prop) (a b : Event) : Prop where
  info : a.info = b.info
  returns : List.Forall₂ related a.returns b.returns

/-- Two methods are the same but for the properties in them. -/
structure Method.Matches (related : Property → Property → Prop) (a b : Method) : Prop where
  info : a.info = b.info
  signature : a.signature = b.signature
  parameters : List.Forall₂ related a.parameters b.parameters
  returns : List.Forall₂ related a.returns.toList b.returns.toList

/-- Two blocks are the same but for the properties in them. -/
structure Block.Matches (related : Property → Property → Prop) (a b : Block) : Prop where
  info : a.info = b.info
  events : List.Forall₂ (Event.Matches related) a.events b.events
  properties : List.Forall₂ related a.properties b.properties
  methods : List.Forall₂ (Method.Matches related) a.methods b.methods
  instanceName : a.instanceName = b.instanceName
  instanceEvents : List.Forall₂ (Event.Matches related) a.instanceEvents b.instanceEvents
  instanceProperties : List.Forall₂ related a.instanceProperties b.instanceProperties
  instanceMethods : List.Forall₂ (Method.Matches related) a.instanceMethods b.instanceMethods
  constructorMethod : List.Forall₂ (Method.Matches related) a.constructorMethod.toList
    b.constructorMethod.toList
  staticMethods : List.Forall₂ (Method.Matches related) a.staticMethods b.staticMethods

/-- Two descriptions are the same but for the properties in them. -/
structure Schema.Matches (related : Property → Property → Prop) (a b : Schema) : Prop where
  source : a.source = b.source
  blocks : List.Forall₂ (Block.Matches related) a.blocks b.blocks

/-- Two entities have one name, one type and the same marks. What else is said about them becomes a
comment, or nothing. -/
structure Info.Alike (a b : Info) : Prop where
  name : a.name = b.name
  rawType : a.rawType = b.rawType
  processes : a.processes = b.processes

/-- Two events are alike, and so are the properties in them. -/
structure Event.Alike (a b : Event) : Prop where
  info : a.info.Alike b.info
  returns : List.Forall₂ Property.Alike a.returns b.returns

/-- Two methods are alike, and so are the properties in them. -/
structure Method.Alike (a b : Method) : Prop where
  info : a.info.Alike b.info
  parameters : List.Forall₂ Property.Alike a.parameters b.parameters
  returns : List.Forall₂ Property.Alike a.returns.toList b.returns.toList

/-- Two blocks are alike, and so is what is in them. -/
structure Block.Alike (a b : Block) : Prop where
  info : a.info.Alike b.info
  events : List.Forall₂ Event.Alike a.events b.events
  properties : List.Forall₂ Property.Alike a.properties b.properties
  methods : List.Forall₂ Method.Alike a.methods b.methods
  instanceEvents : List.Forall₂ Event.Alike a.instanceEvents b.instanceEvents
  instanceProperties : List.Forall₂ Property.Alike a.instanceProperties b.instanceProperties
  instanceMethods : List.Forall₂ Method.Alike a.instanceMethods b.instanceMethods
  constructorMethod : a.constructorMethod.isSome = b.constructorMethod.isSome
  staticMethods : List.Forall₂ Method.Alike a.staticMethods b.staticMethods

theorem Info.Alike.kind {a b : Info} (alike : a.Alike b) : a.kind = b.kind := by
  rw [Info.kind, alike.rawType]
  rfl

@[refl] theorem Info.Alike.refl (info : Info) : info.Alike info := ⟨rfl, rfl, rfl⟩

theorem Info.Alike.of_eq {a b : Info} (same : a = b) : a.Alike b := same ▸ .refl a

@[refl] theorem Event.Alike.refl (event : Event) : event.Alike event :=
  ⟨.refl _, List.forall₂_same.mpr fun _ _ => .refl _⟩

@[refl] theorem Method.Alike.refl (method : Method) : method.Alike method :=
  ⟨.refl _, List.forall₂_same.mpr fun _ _ => .refl _, List.forall₂_same.mpr fun _ _ => .refl _⟩

@[refl] theorem Block.Alike.refl (block : Block) : block.Alike block := by
  have events (events : List Event) : List.Forall₂ Event.Alike events events :=
    List.forall₂_same.mpr fun _ _ => .refl _
  have methods (methods : List Method) : List.Forall₂ Method.Alike methods methods :=
    List.forall₂_same.mpr fun _ _ => .refl _
  have properties (properties : List Property) :
      List.Forall₂ Property.Alike properties properties :=
    List.forall₂_same.mpr fun _ _ => .refl _
  exact ⟨.refl _, events _, properties _, methods _, events _, properties _, methods _, rfl,
    methods _⟩

section Matches

variable {a b : Block}

theorem Event.Matches.alike {a b : Event} (same : a.Matches Property.Alike b) : a.Alike b :=
  ⟨.of_eq same.info, same.returns⟩

theorem Method.Matches.alike {a b : Method} (same : a.Matches Property.Alike b) : a.Alike b :=
  ⟨.of_eq same.info, same.parameters, same.returns⟩

/-- Blocks that are the same but for alike properties are alike. -/
theorem Block.Matches.alike (same : a.Matches Property.Alike b) : a.Alike b where
  info := .of_eq same.info
  events := same.events.imp fun _ _ => Event.Matches.alike
  properties := same.properties
  methods := same.methods.imp fun _ _ => Method.Matches.alike
  instanceEvents := same.instanceEvents.imp fun _ _ => Event.Matches.alike
  instanceProperties := same.instanceProperties
  instanceMethods := same.instanceMethods.imp fun _ _ => Method.Matches.alike
  constructorMethod := by
    have length := same.constructorMethod.length_eq
    cases given : a.constructorMethod <;> cases given' : b.constructorMethod <;>
      simp [given, given'] at length ⊢
  staticMethods := same.staticMethods.imp fun _ _ => Method.Matches.alike

end Matches

theorem Block.Alike.name {a b : Block} (alike : a.Alike b) : a.name = b.name := alike.info.name

theorem Block.Alike.kind {a b : Block} (alike : a.Alike b) : a.kind = b.kind := alike.info.kind

section Mono

variable {related weaker : Property → Property → Prop}

theorem Event.Matches.mono (le : ∀ a b, related a b → weaker a b) {a b : Event}
    (same : a.Matches related b) : a.Matches weaker b :=
  { same with returns := same.returns.imp le }

theorem Method.Matches.mono (le : ∀ a b, related a b → weaker a b) {a b : Method}
    (same : a.Matches related b) : a.Matches weaker b :=
  { same with
    parameters := same.parameters.imp le
    returns := same.returns.imp le }

theorem Block.Matches.mono (le : ∀ a b, related a b → weaker a b) {a b : Block}
    (same : a.Matches related b) : a.Matches weaker b :=
  { same with
    events := same.events.imp fun _ _ => Event.Matches.mono le
    properties := same.properties.imp le
    methods := same.methods.imp fun _ _ => Method.Matches.mono le
    instanceEvents := same.instanceEvents.imp fun _ _ => Event.Matches.mono le
    instanceProperties := same.instanceProperties.imp le
    instanceMethods := same.instanceMethods.imp fun _ _ => Method.Matches.mono le
    constructorMethod := same.constructorMethod.imp fun _ _ => Method.Matches.mono le
    staticMethods := same.staticMethods.imp fun _ _ => Method.Matches.mono le }

theorem Schema.Matches.mono (le : ∀ a b, related a b → weaker a b) {a b : Schema}
    (same : a.Matches related b) : a.Matches weaker b :=
  { same with blocks := same.blocks.imp fun _ _ => Block.Matches.mono le }

end Mono

end Api

open Api (Block Event Method Property namedShapes)

/-! ### What is read off properties of any depth -/

namespace Generator

mutual
/-- The number of properties in a property is a matter of its shape. -/
theorem nodeCount_eq_of_shape_eq : ∀ {a b : Property}, a.shape = b.shape →
    nodeCount a = nodeCount b
  | ⟨_, properties, parameters, _⟩, ⟨_, properties', parameters', _⟩, same => by
    simp only [Property.shape, Api.Shape.mk.injEq] at same
    simp only [nodeCount, nodeCounts_eq_of_namedShapes_eq same.2.1,
      nodeCounts_eq_of_namedShapes_eq same.2.2.1]

theorem nodeCounts_eq_of_namedShapes_eq : ∀ {properties properties' : List Property},
    namedShapes properties = namedShapes properties' →
      nodeCounts properties = nodeCounts properties'
  | [], [], _ => rfl
  | property :: rest, property' :: rest', same => by
    simp only [namedShapes, List.cons.injEq, Prod.mk.injEq] at same
    simp only [nodeCounts, nodeCount_eq_of_shape_eq same.1.2,
      nodeCounts_eq_of_namedShapes_eq same.2]
end

end Generator

/-- Two properties with their paths: one path, and malformed types at the same places. -/
def PathMatches (entry other : String × Property) : Prop :=
  entry.1 = other.1 ∧ entry.2.info.rawType.isMalformed = other.2.info.rawType.isMalformed

mutual
theorem propertyPaths_matches (lead : String) : ∀ {a b : Property}, a.Alike b →
    List.Forall₂ PathMatches (propertyPaths lead a) (propertyPaths lead b)
  | ⟨info, properties, parameters, values⟩, ⟨info', properties', parameters', values'⟩, alike => by
    have paths : lead ++ pathName ⟨info, properties, parameters, values⟩ =
        lead ++ pathName ⟨info', properties', parameters', values'⟩ := by
      have names : info.name = info'.name := alike.name
      simp only [pathName, names]
    obtain ⟨-, fields, params, -⟩ := Property.shape_eq_iff.mp alike.shape
    simp only [propertyPaths]
    rw [paths]
    refine .cons ⟨rfl, Property.isMalformed_eq_of_shape_eq alike.shape⟩ (List.rel_append ?_ ?_)
    · exact listPaths_matches _ fields
    · exact listPaths_matches _ params

theorem listPaths_matches (lead : String) : ∀ {properties properties' : List Property},
    List.Forall₂ Property.Alike properties properties' →
      List.Forall₂ PathMatches (listPaths lead properties) (listPaths lead properties')
  | [], [], _ => .nil
  | property :: rest, property' :: rest', .cons first others => by
    simp only [listPaths]
    exact List.rel_append (propertyPaths_matches lead first) (listPaths_matches lead others)
end

theorem blockPaths_matches {block block' : Block} (alike : block.Alike block') :
    List.Forall₂ PathMatches (blockPaths block) (blockPaths block') := by
  have methods : List.Forall₂ Method.Alike
      (block.methods ++ block.instanceMethods ++ block.staticMethods)
      (block'.methods ++ block'.instanceMethods ++ block'.staticMethods) :=
    List.rel_append (List.rel_append alike.methods alike.instanceMethods) alike.staticMethods
  have events : List.Forall₂ Event.Alike
      (block.events ++ block.instanceEvents) (block'.events ++ block'.instanceEvents) :=
    List.rel_append alike.events alike.instanceEvents
  refine List.rel_append (List.rel_append (List.rel_append ?_ ?_) ?_) ?_
  · exact listPaths_matches "" alike.properties
  · exact listPaths_matches "" alike.instanceProperties
  · refine List.rel_flatMap methods fun method method' alike => ?_
    simp only [alike.info.name]
    exact List.rel_append (listPaths_matches _ alike.parameters) (listPaths_matches _ alike.returns)
  · refine List.rel_flatMap events fun event event' alike => ?_
    simp only [alike.info.name]
    exact listPaths_matches _ alike.returns

/-- The warnings about alike blocks are the same. -/
theorem blockRemarks_eq (source : String) {block block' : Block} (alike : block.Alike block') :
    blockRemarks source block = blockRemarks source block' := by
  have statics : block.staticMethods.isEmpty = block'.staticMethods.isEmpty :=
    isEmpty_eq_of_forall₂ alike.staticMethods
  simp only [blockRemarks, alike.name, alike.kind, alike.info.rawType, statics,
    alike.constructorMethod]
  rw [filterMap_eq_of_forall₂ (blockPaths_matches alike)]
  -- a remark about a property only needs its path and whether its type is malformed
  rintro ⟨path, property⟩ ⟨path', property'⟩ ⟨samePath, malformed⟩
  dsimp only at samePath malformed ⊢
  rw [samePath, malformed]

end HostBindings
