import HostBindings.Proofs.Emission.Drain
import HostBindings.Proofs.Layout.Notes

/-!
# Plain descriptions

A description is plain if no name, no value, no platform, no package metadata and no source in it
has a line feed or a grave accent. Descriptions of entities are free: they become comments line by
line. The comments and tags of a plain description are single lines.

## Main definitions

* `Api.isPlain` — plain texts
* `Api.Info.isPlain`, `Api.Property.isPlain`, `Api.Block.isPlain`, `Api.Schema.isPlain`

## Main results

* `isPlain_of_descends` — what stands below plain nodes is plain
* `Generator.isTag_fieldTag` — the tags of plain entities
-/

namespace HostBindings

namespace Api

/-- Whether a text has neither a line feed nor a grave accent. -/
def isPlain (text : String) : Bool := text.toList.all fun c => c != '\n' && c != '\x60'

/-- Whether the texts of an entity that are not descriptions are plain. -/
def Info.isPlain (info : Info) : Bool :=
  Api.isPlain info.name && info.platforms.all Api.isPlain && Api.isPlain info.version &&
    Api.isPlain info.repoUrl && Api.isPlain info.websiteUrl

/-- Whether a member of an enumeration is plain. -/
def PossibleValue.isPlain (member : PossibleValue) : Bool :=
  member.info.isPlain && Api.isPlain member.value

mutual
/-- Whether a property is plain, with all properties below it. -/
def Property.isPlain : Property → Bool
  | ⟨info, properties, parameters, possibleValues⟩ =>
    info.isPlain && arePlain properties && arePlain parameters &&
      possibleValues.all (·.isPlain)

/-- Whether properties are plain. -/
def arePlain : List Property → Bool
  | [] => true
  | property :: rest => property.isPlain && arePlain rest
end

/-- Whether an event is plain. -/
def Event.isPlain (event : Event) : Bool := event.info.isPlain && arePlain event.returns

/-- Whether a method is plain. -/
def Method.isPlain (method : Method) : Bool :=
  method.info.isPlain && arePlain method.parameters && arePlain method.returns.toList

/-- Whether a block is plain. -/
def Block.isPlain (block : Block) : Bool :=
  block.info.isPlain && (block.events ++ block.instanceEvents).all (·.isPlain) &&
    arePlain block.properties && arePlain block.instanceProperties &&
    (block.methods ++ block.instanceMethods ++ block.staticMethods ++
      block.constructorMethod.toList).all (·.isPlain)

/-- Whether a description is plain. -/
def Schema.isPlain (schema : Schema) : Bool :=
  Api.isPlain schema.source.text && schema.blocks.all (·.isPlain)

theorem arePlain_iff {properties : List Property} :
    arePlain properties = true ↔ ∀ property ∈ properties, property.isPlain = true := by
  induction properties with
  | nil => simp [arePlain]
  | cons property rest ih => simp [arePlain, ih]

/-- What a plain property is made of. -/
theorem Property.isPlain_iff {property : Property} :
    property.isPlain = true ↔
      property.info.isPlain = true ∧ (∀ other ∈ property.properties, other.isPlain = true) ∧
        (∀ other ∈ property.parameters, other.isPlain = true) ∧
        ∀ value ∈ property.possibleValues, value.isPlain = true := by
  obtain ⟨info, properties, parameters, possibleValues⟩ := property
  simp [Property.isPlain, arePlain_iff, and_assoc]

theorem lineFeed_not_mem {text : String} (plain : isPlain text = true) : '\n' ∉ text.toList := by
  intro member
  simpa using List.all_eq_true.mp plain _ member

theorem isSingle_of_isPlain {text : String} (plain : isPlain text = true) : isSingle text = true :=
  isSingle_iff.mpr (lineFeed_not_mem plain)

/-- The texts of a plain entity that become comments as they are have no line feeds. -/
theorem Info.isSingle_of_isPlain {info : Info} (plain : info.isPlain = true) :
    info.isSingle = true := by
  simp only [Info.isPlain, Info.isSingle, Bool.and_eq_true, List.all_eq_true] at plain ⊢
  obtain ⟨⟨⟨⟨-, platforms⟩, version⟩, repoUrl⟩, websiteUrl⟩ := plain
  exact ⟨⟨⟨fun platform there => Api.isSingle_of_isPlain (platforms platform there),
    Api.isSingle_of_isPlain version⟩, Api.isSingle_of_isPlain repoUrl⟩,
    Api.isSingle_of_isPlain websiteUrl⟩

theorem graveAccent_not_mem {text : String} (plain : isPlain text = true) :
    '\x60' ∉ text.toList := by
  intro member
  simpa using List.all_eq_true.mp plain _ member

end Api

open Api (Block Info Property)
open Layout

/-! ### Nodes -/

/-- What stands below plain nodes is plain. -/
theorem isPlain_of_descends {roots : List PropertyNode} {node : PropertyNode}
    (plain : ∀ root ∈ roots, root.property.isPlain = true)
    (below : PropertyNode.Descends roots node) : node.property.isPlain = true := by
  refine below.closed (·.isPlain = true) (fun property plain other member => ?_) plain
  obtain ⟨-, properties, parameters, -⟩ := Property.isPlain_iff.mp plain
  rcases List.mem_append.mp member with field | parameter
  · exact properties _ field
  · exact parameters _ parameter

namespace Generator

variable {block : Block}

/-- A plain method has plain parameters and a plain result. -/
theorem isPlain_of_mem_slotNodes {node : MethodNode} {slot : PropertyNode}
    (plain : node.method.isPlain = true) (member : slot ∈ slotNodes node) :
    slot.property.isPlain = true := by
  simp only [Api.Method.isPlain, Bool.and_eq_true, Api.arePlain_iff] at plain
  rcases List.mem_append.mp (mem_of_mem_slotNodes member) with parameter | result
  · exact plain.1.2 _ parameter
  · exact plain.2 _ result

theorem isPlain_of_mem_blockMethods {node : MethodNode} (plain : block.isPlain = true)
    (member : node ∈ blockMethods block) : node.method.isPlain = true := by
  simp only [Block.isPlain, Bool.and_eq_true, List.all_eq_true] at plain
  exact plain.2 _ (List.mem_append_left _ (List.mem_append_left _ (mem_of_mem_blockMethods member)))

theorem isPlain_of_mem_blockEvents {event : Api.Event} (plain : block.isPlain = true)
    (member : event ∈ blockEvents block) : event.isPlain = true := by
  simp only [Block.isPlain, Bool.and_eq_true, List.all_eq_true] at plain
  exact plain.1.1.1.2 _ (mem_of_mem_blockEvents member)

theorem isPlain_of_mem_blockProperties {node : PropertyNode} (plain : block.isPlain = true)
    (member : node ∈ blockProperties block) : node.property.isPlain = true := by
  simp only [Block.isPlain, Bool.and_eq_true, Api.arePlain_iff] at plain
  rcases List.mem_append.mp (mem_of_mem_blockProperties member) with field | instanceField
  · exact plain.1.1.2 _ field
  · exact plain.1.2 _ instanceField

/-- The properties that are declared with a plain block are plain. -/
theorem isPlain_of_mem_blockNodes {node : PropertyNode} (plain : block.isPlain = true)
    (member : node ∈ blockNodes block) : node.property.isPlain = true := by
  rcases List.mem_append.mp member with property | slot
  · exact isPlain_of_mem_blockProperties plain property
  · obtain ⟨method, there, slot⟩ := List.mem_flatMap.mp slot
    exact isPlain_of_mem_slotNodes (isPlain_of_mem_blockMethods plain there) slot

/-! ### Tags -/

private theorem mem_of_mem_escapeTag {name : String} {c : Char}
    (member : c ∈ (escapeTag name).toList) : c = '\\' ∨ c ∈ name.toList := by
  rw [escapeTag, String.toList_ofList] at member
  obtain ⟨d, there, escaped⟩ := List.mem_flatMap.mp member
  split at escaped
  · simp only [List.mem_cons, List.not_mem_nil, or_false] at escaped
    rcases escaped with rfl | rfl
    · exact .inl rfl
    · exact .inr there
  · rw [List.mem_singleton.mp escaped]
    exact .inr there

/-- The tag of a plain entity is a raw string literal on the line, or nothing. -/
theorem isTag_fieldTag (generator : Generator) {info : Info} (plain : info.isPlain = true)
    (key : ∀ key ∈ generator.settings.tagKey?, Api.isPlain key = true) (owner : Option Info) :
    isTag (generator.fieldTag info owner).toList = true ∧
      '\n' ∉ (generator.fieldTag info owner).toList := by
  simp only [Info.isPlain, Bool.and_eq_true] at plain
  unfold fieldTag
  split
  next label _ found =>
    split
    · exact ⟨rfl, List.not_mem_nil⟩
    · have shown : Api.isPlain (if info.name = "" then "obj" else info.name) = true := by
        split
        · decide
        · exact plain.1.1.1.1
      generalize (if info.name = "" then "obj" else info.name) = name at shown
      -- between the grave accents stand the key, the name and three more characters
      let inside := label.toList ++ (":\"".toList ++ ((escapeTag name).toList ++ ['"']))
      have free {c : Char} (other : c ≠ '\\' ∧ c ≠ ':' ∧ c ≠ '"') (apart : c ∉ label.toList)
          (absent : c ∉ name.toList) : c ∉ inside := by
        intro member
        simp only [inside, List.mem_append, List.mem_singleton] at member
        rcases member with lead | colon | escaped | mark
        · exact apart lead
        · simp [other] at colon
        · rcases mem_of_mem_escapeTag escaped with same | there
          · exact other.1 same
          · exact absent there
        · exact other.2.2 mark
      have text : (s!" \x60{label}:\"{escapeTag name}\"\x60").toList =
          ' ' :: '\x60' :: (inside ++ ['\x60']) := by
        change (" \x60" ++ label ++ ":\"" ++ escapeTag name ++ "\"\x60").toList = _
        simp [inside]
      have mark : '\x60' ∉ inside := free (by decide) (Api.graveAccent_not_mem (key label found))
        (Api.graveAccent_not_mem shown)
      have feed : '\n' ∉ inside := free (by decide) (Api.lineFeed_not_mem (key label found))
        (Api.lineFeed_not_mem shown)
      rw [text]
      generalize inside = inside at mark feed
      exact ⟨by simp [isTag, mark], by simp [feed]⟩
  · exact ⟨rfl, List.not_mem_nil⟩

end Generator

end HostBindings
