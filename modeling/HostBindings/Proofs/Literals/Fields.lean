import HostBindings.Proofs.Literals.Tags
import HostBindings.Proofs.Runs.Nested

/-!
# The tags of the fields of a pass

Where settings ask for tags, every field of a structure has one, in a block and in what is nested in
it. A tag gives the name of its property or method in the host, unless the name has a character that
the literal cannot hold.

## Main definitions

* `Generator.tagName` — the name that a tag is to give
* `Generator.Tagged` — a field with the tag of an entity
* `Generator.TaggedComposite` — a structure whose fields have the tags of entities

## Main results

* `Generator.carries_fieldTag` — the tag of one entity
* `Generator.field_tags_carry_names`
-/

namespace HostBindings.Generator

open Api (Block Info)
open Literal (Carries IsKey IsTagName)

variable {generator : Generator} {settings : Settings} {key : String}

/-! ### One tag -/

/-- The name that a tag is to give: that of the entity, or one that stands in for it. -/
def tagName (info : Info) : String := if info.name = "" then "obj" else info.name

/-- A field with the tag of an entity: it gives the name, if a tag can. -/
def Tagged (key : String) (info : Info) (field : Code.Field) : Prop :=
  Carries key (tagName info) field.tag ↔ IsTagName (tagName info)

theorem tagKey?_eq (tags : settings.generateTags.truthy = true)
    (keyed : settings.tagKey = .string key) (plain : IsKey key.toList) :
    settings.tagKey? = some key := by
  have filled : key ≠ "" := fun none => plain.filled (by rw [none]; rfl)
  have truthy : settings.tagKey.truthy = true := by simp [keyed, Json.truthy, filled]
  rw [Settings.tagKey?, tags, truthy, keyed]
  rfl

/-- The tag of an entity whose owner is no function. -/
theorem carries_fieldTag (keyed : generator.settings.tagKey? = some key)
    (plain : IsKey key.toList) {owner : Info} (kind : owner.kind ≠ .function) (info : Info) :
    Carries key (tagName info) (generator.fieldTag info (some owner)) ↔
      IsTagName (tagName info) := by
  rw [← Literal.carries_iff plain]
  simp only [fieldTag, keyed, if_neg kind, tagName]

/-! ### All tags of a pass -/

/-- A structure of a name, whose fields have the tags of entities in order. -/
def TaggedComposite (key name : String) (infos : List Info) (declaration : Code.Declaration) :
    Prop :=
  ∃ comments handle fields, declaration = .composite comments name handle fields ∧
    List.Forall₂ (Tagged key) infos fields

/-- The structure of a block. -/
theorem tagged_structure (keyed : generator.settings.tagKey? = some key) (plain : IsKey key.toList)
    {allocated : List String} {block : Block} {properties : List PropertyNode}
    {methods : List MethodNode} {handle : Code.Handle} {fields : List Code.Field}
    (kind : block.info.kind ≠ .function)
    (fits : generator.StructureFor allocated block properties methods handle fields) :
    List.Forall₂ (Tagged key)
      (properties.map (·.property.info) ++ methods.map (·.method.info)) fields := by
  obtain ⟨values, calls, rfl, fieldsFor, methodsFor⟩ := fits.fields
  refine List.rel_append ?_ ?_
  · refine List.forall₂_map_left_iff.mpr (fieldsFor.imp fun node field fits => ?_)
    rw [Tagged, fits.tag]
    exact carries_fieldTag keyed plain kind _
  · refine List.forall₂_map_left_iff.mpr (methodsFor.imp fun node field fits => ?_)
    rw [Tagged, fits.tag]
    exact carries_fieldTag keyed plain kind _

/-- A nested structure. -/
theorem tagged_nested (keyed : generator.settings.tagKey? = some key) (plain : IsKey key.toList)
    {allocated : List String} {pending : Pending} {declaration : Code.Declaration}
    (composite : pending.kind = .composite) (kind : pending.node.property.kind ≠ .function)
    (fits : generator.DeclarationFor allocated pending declaration) :
    TaggedComposite key pending.name (pending.node.properties.map (·.property.info))
      declaration := by
  cases fits with
  | enumeration constants =>
    rw [composite] at constants
    cases constants
  | function _ function => exact absurd function kind
  | composite _ _ _ fields =>
    refine ⟨_, _, _, rfl, List.forall₂_map_left_iff.mpr (fields.imp fun node field fits => ?_)⟩
    rw [Tagged, fits.tag]
    exact carries_fieldTag keyed plain kind _

/-- Tags give names. Under settings that ask for tags with a plain key, a pass that succeeds has
written the structure of its block behind the constants of events, then what is nested in it. In the
structure of a block that is no function, each property and each method has a field in order, and in
each nested structure that is no function, each property has. The tag of such a field is one raw
string literal in which the value of the key is the name in the host, for all names but those with a
backtick, a line feed or a carriage return. -/
theorem field_tags_carry_names (configured : Generator.ofSettings settings = .ok generator)
    (tags : settings.generateTags.truthy = true) (keyed : settings.tagKey = .string key)
    (plain : IsKey key.toList) {block : Block} {reserved : List String} {start pass : Pass}
    {count : Nat} (started : Pass.start generator block reserved = .ok start)
    (run : Emit.Runs (generator.emission block) start count pass) :
    ∃ events composite nested,
      pass.sink.declarations = events ++ composite :: nested ∧
      pass.sink.text = Code.textOf pass.sink.declarations ∧
      (∀ declaration ∈ events, declaration.typeName? = none) ∧
      (block.info.kind ≠ .function →
        TaggedComposite key start.scope.symbol
          ((blockProperties block).map (·.property.info) ++
            (blockMethods block).map (·.method.info)) composite) ∧
      List.Forall₂
        (fun pending declaration =>
          pending.kind = .composite → pending.node.property.kind ≠ .function →
          TaggedComposite key pending.name (pending.node.properties.map (·.property.info))
            declaration)
        pass.declared nested := by
  have known : generator.settings.tagKey? = some key := by
    rw [settings_ofSettings configured]
    exact tagKey?_eq tags keyed plain
  obtain ⟨primary, nested, fits, progress, -, -⟩ :=
    progress_emission (templates_ofSettings configured) started run
  have others := progress.nested.imp fun pending declaration fits composite kind =>
    tagged_nested known plain composite kind fits
  cases fits with
  | plain _ structure' =>
    exact ⟨[], _, nested, progress.written, progress.prints.text, by simp,
      fun kind => ⟨_, _, _, rfl, tagged_structure known plain kind structure'⟩, others⟩
  | withEvents _ _ structure' =>
    exact ⟨[_], _, nested, progress.written, progress.prints.text,
      by simp [Code.Declaration.typeName?],
      fun kind => ⟨_, _, _, rfl, tagged_structure known plain kind structure'⟩, others⟩

/-- A structure with a property whose name has quotation marks and a backslash, and one nested in
it. -/
def tagSample : Block :=
  { info := { name := "menu", rawType := .single "Object" }
    properties :=
      [{ info := { name := "say \"a\\b\"", rawType := .single "String" } },
        { info := { name := "item", rawType := .single "Object" }
          properties := [{ info := { name := "", rawType := .single "String" } }] }] }

theorem field_tags_carry_names_sample :
    ({} : Settings).generateTags.truthy = true ∧ IsKey "js".toList ∧
      ∃ generator start pass comments handle first second,
        Generator.ofSettings {} = .ok generator ∧
        Pass.start generator tagSample [] = .ok start ∧
        Emit.Runs (generator.emission tagSample) start 1 pass ∧
        .composite comments start.scope.symbol handle [first, second] ∈ pass.sink.declarations ∧
        Carries "js" "say \"a\\b\"" first.tag ∧ Carries "js" "item" second.tag := by
  have counted : nestedCount? {} tagSample [] = some 1 := by decide +kernel
  have plain : IsKey "js".toList := ⟨by simp, by simp [Literal.isKeyChar], by simp⟩
  obtain ⟨generator, start, pass, configured, started, run⟩ := exists_runs counted
  obtain ⟨events, composite, nested, written, -, -, own, -⟩ :=
    field_tags_carry_names configured rfl rfl plain started run
  obtain ⟨comments, handle, fields, rfl, tagged⟩ := own (by decide)
  cases tagged with
  | cons one others =>
    cases others with
    | cons two none =>
      cases none
      refine ⟨rfl, plain, generator, start, pass, comments, handle, _, _, configured, started, run,
        by simp [written], one.mpr ?_, two.mpr ?_⟩
      · simp [tagName, IsTagName]
      · simp [tagName, IsTagName]

end HostBindings.Generator
