import HostBindings.Proofs.Comments.Entities
import HostBindings.Proofs.Shapes.Alike

/-!
# Descriptions without commentary

Descriptions, platforms, the metadata of a package and the source of a document become comments, and
nothing else. A description without them has entities of the same names and shapes, and nothing in
it that could break a comment into lines.

## Main definitions

* `Api.Info.bare`, `Api.Property.bare`, `Api.Block.bare`, `Api.Schema.bare` — without commentary

## Main results

* `Api.Block.alike_bare` — the blocks are alike
* `Api.Schema.isSingle_bare` — all texts are single lines
-/

namespace HostBindings.Api

/-- An entity of which nothing is said in comments. -/
def Info.bare (info : Info) : Info :=
  { info with description := "", platforms := [], version := "", repoUrl := "", websiteUrl := "" }

/-- A member of an enumeration without commentary. -/
def PossibleValue.bare (member : PossibleValue) : PossibleValue :=
  { member with info := member.info.bare }

mutual
/-- A property without commentary, at any depth. -/
def Property.bare : Property → Property
  | ⟨info, properties, parameters, possibleValues⟩ =>
    ⟨info.bare, allBare properties, allBare parameters, possibleValues.map (·.bare)⟩

/-- Properties without commentary. -/
def allBare : List Property → List Property
  | [] => []
  | property :: rest => property.bare :: allBare rest
end

/-- An event without commentary. -/
def Event.bare (event : Event) : Event :=
  { info := event.info.bare, returns := allBare event.returns }

/-- A method without commentary. -/
def Method.bare (method : Method) : Method :=
  { method with
    info := method.info.bare
    parameters := allBare method.parameters
    returns := method.returns.map (·.bare) }

/-- A block without commentary. -/
def Block.bare (block : Block) : Block where
  info := block.info.bare
  events := block.events.map (·.bare)
  properties := allBare block.properties
  methods := block.methods.map (·.bare)
  instanceName := block.instanceName
  instanceEvents := block.instanceEvents.map (·.bare)
  instanceProperties := allBare block.instanceProperties
  instanceMethods := block.instanceMethods.map (·.bare)
  constructorMethod := block.constructorMethod.map (·.bare)
  staticMethods := block.staticMethods.map (·.bare)

/-- A description without commentary, of a document without a name. -/
def Schema.bare (schema : Schema) : Schema where
  source := .string ""
  blocks := schema.blocks.map (·.bare)

theorem allBare_eq_map (properties : List Property) :
    allBare properties = properties.map (·.bare) := by
  induction properties with
  | nil => rfl
  | cons property rest ih => rw [allBare, ih, List.map_cons]

/-! ### Names and shapes -/

theorem Info.alike_bare (info : Info) : info.Alike info.bare := ⟨rfl, rfl, rfl⟩

mutual
theorem Property.shape_bare : ∀ property : Property, property.bare.shape = property.shape
  | ⟨info, properties, parameters, possibleValues⟩ => by
    have members (members : List PossibleValue) :
        (members.map (·.bare)).map (fun value => (value.info.name, value.literal)) =
          members.map fun value => (value.info.name, value.literal) := by
      rw [List.map_map]
      rfl
    simp only [Property.bare, Property.shape, namedShapes_allBare properties,
      namedShapes_allBare parameters, members]
    rfl

theorem namedShapes_allBare : ∀ properties : List Property,
    namedShapes (allBare properties) = namedShapes properties
  | [] => rfl
  | ⟨info, properties, parameters, possibleValues⟩ :: rest => by
    simp only [allBare, namedShapes, namedShapes_allBare rest,
      Property.shape_bare ⟨info, properties, parameters, possibleValues⟩]
    rfl
end

theorem alike_allBare (properties : List Property) :
    List.Forall₂ Property.Alike properties (allBare properties) :=
  namedShapes_eq_iff.mp (namedShapes_allBare properties).symm

/-- Items are related to their images if each is. -/
theorem forall₂_map_self {α β : Type} {related : α → β → Prop} {f : α → β}
    (all : ∀ item, related item (f item)) (items : List α) :
    List.Forall₂ related items (items.map f) := by
  rw [List.forall₂_map_right_iff]
  exact List.forall₂_same.mpr fun item _ => all item

theorem Event.alike_bare (event : Event) : event.Alike event.bare :=
  ⟨event.info.alike_bare, alike_allBare event.returns⟩

theorem Method.alike_bare (method : Method) : method.Alike method.bare where
  info := method.info.alike_bare
  parameters := alike_allBare method.parameters
  returns := by
    have result := alike_allBare method.returns.toList
    rwa [allBare_eq_map, ← Option.toList_map] at result

/-- A block and its bare form are alike. -/
theorem Block.alike_bare (block : Block) : block.Alike block.bare where
  info := block.info.alike_bare
  events := forall₂_map_self Event.alike_bare block.events
  properties := alike_allBare block.properties
  methods := forall₂_map_self Method.alike_bare block.methods
  instanceEvents := forall₂_map_self Event.alike_bare block.instanceEvents
  instanceProperties := alike_allBare block.instanceProperties
  instanceMethods := forall₂_map_self Method.alike_bare block.instanceMethods
  constructorMethod := Option.isSome_map.symm
  staticMethods := forall₂_map_self Method.alike_bare block.staticMethods

/-! ### Single lines -/

theorem Info.isSingle_bare (info : Info) : info.bare.isSingle = true := rfl

mutual
theorem Property.infos_bare : ∀ property : Property,
    property.bare.infos = property.infos.map Info.bare
  | ⟨info, properties, parameters, possibleValues⟩ => by
    simp only [Property.bare, Property.infos, infosOf_allBare properties,
      infosOf_allBare parameters, List.map_cons, List.map_append, List.map_map]
    rfl

theorem infosOf_allBare : ∀ properties : List Property,
    infosOf (allBare properties) = (infosOf properties).map Info.bare
  | [] => rfl
  | property :: rest => by
    rw [allBare, infosOf, infosOf, Property.infos_bare property, infosOf_allBare rest,
      List.map_append]
end

theorem Event.infos_bare (event : Event) : event.bare.infos = event.infos.map Info.bare :=
  congrArg (event.info.bare :: ·) (infosOf_allBare event.returns)

theorem Method.infos_bare (method : Method) : method.bare.infos = method.infos.map Info.bare := by
  have result := infosOf_allBare method.returns.toList
  rw [allBare_eq_map, ← Option.toList_map] at result
  simp only [infos, bare, infosOf_allBare, result, List.map_cons, List.map_append]

theorem Block.infos_bare (block : Block) : block.bare.infos = block.infos.map Info.bare := by
  have events (events : List Event) : (events.map (·.bare)).flatMap (·.infos) =
      (events.flatMap (·.infos)).map Info.bare := by
    simp only [List.flatMap_map, List.map_flatMap, Event.infos_bare]
  have methods (methods : List Method) : (methods.map (·.bare)).flatMap (·.infos) =
      (methods.flatMap (·.infos)).map Info.bare := by
    simp only [List.flatMap_map, List.map_flatMap, Method.infos_bare]
  have properties (properties : List Property) :
      infosOf (properties.map (·.bare)) = (infosOf properties).map Info.bare := by
    rw [← allBare_eq_map, infosOf_allBare]
  have constructor : (block.constructorMethod.map (·.bare)).toList =
      block.constructorMethod.toList.map (·.bare) := Option.toList_map
  simp only [infos, bare, allBare_eq_map, constructor, ← List.map_append, events, properties,
    methods, List.map_cons]

theorem Block.isSingle_bare (block : Block) : block.bare.isSingle = true := by
  rw [Block.isSingle, infos_bare, List.all_map]
  exact List.all_eq_true.mpr fun info _ => info.isSingle_bare

theorem Schema.isSingle_bare (schema : Schema) : schema.bare.isSingle = true := by
  have blocks : schema.bare.blocks.all (·.isSingle) = true := by
    rw [Schema.bare, List.all_map]
    exact List.all_eq_true.mpr fun block _ => block.isSingle_bare
  rw [Schema.isSingle, blocks]
  rfl

end HostBindings.Api
