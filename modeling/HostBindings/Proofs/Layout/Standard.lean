import HostBindings.Proofs.Layout.Plain

/-!
# The default settings

Under the default settings every name is a word, every type is the name of a type, and a literal
that is not quoted is a number or a truth value. So what is declared for a plain description is read
back, whether or not there are comments and tags.

## Main definitions

* `Generator.standard` — the generator of the default settings

## Main results

* `Generator.isWord_of_makes` — names are words
* `Generator.wellFormed_of_primaryFor`, `Generator.wellFormed_of_declarationFor`
* `Generator.isWord_of_runs` — the names of a pass
-/

namespace HostBindings

open Api (Block Info Property)
open Layout
open Text (isWordChar)

namespace Generator

/-- The generator of the default settings; `comments` and `tags` say whether there are comments and
tags. -/
def standard (comments tags : Json) : Generator where
  settings :=
    { addComments := comments
      generateTags := tags
      custom := .object (Settings.defaultTypes ++ [("type_overrides", .object [])]) }

/-- It is what the two settings make over the defaults. -/
theorem ofValue_standard [WorkingDirectory] (tree : FileTree) (comments tags : Json) :
    (Generator.ofValue tree
      (.object [("add_comments", comments), ("generate_tags", tags)])).run.run [] =
      (.ok (standard comments tags), []) := rfl

variable {comments tags : Json}

/-! ### Names -/

theorem isWord_append {first second : String} (one : isWord first.toList = true)
    (two : isWord second.toList = true) : isWord (first ++ second).toList = true := by
  rw [isWord_iff] at one two ⊢
  refine ⟨by simp [one.1], fun c member => ?_⟩
  rw [String.toList_append, List.mem_append] at member
  exact member.elim (one.2 c) (two.2 c)

/-- The symbol of a name is a word. -/
theorem isWord_symbol (name : String) :
    isWord (Naming.Normalizer.symbol {} name).toList = true := by
  have all : ∀ c ∈ Naming.Normalizer.core {} name.toList, isWordChar c = true :=
    fun c member => (List.mem_filter.mp member).2
  unfold Naming.Normalizer.symbol
  generalize Naming.Normalizer.core {} name.toList = core at all
  cases core with
  | nil => decide
  | cons c rest =>
    have word : isWord (c :: rest) = true := isWord_iff.mpr ⟨List.cons_ne_nil c rest, all⟩
    rw [Naming.Normalizer.finish]
    -- a digit in front gets a letter before it
    split
    · exact isWord_append (by decide) (by simpa using word)
    · simpa using word

theorem isWord_baseSymbol (info : Info) :
    isWord (Naming.Normalizer.baseSymbol {} info).toList = true := by
  rw [Naming.Normalizer.baseSymbol]
  split
  · exact isWord_append (isWord_symbol _) (by decide)
  · exact isWord_symbol _

/-- A word without its suffix is a word. -/
theorem isWord_stripSuffix {symbol : String} (suffix : String)
    (word : isWord symbol.toList = true) :
    isWord (Naming.stripSuffix symbol suffix).toList = true := by
  rw [Naming.stripSuffix]
  split
  next cut =>
    obtain ⟨-, ends, other⟩ := cut
    obtain ⟨lead, same⟩ := List.isSuffixOf_iff_suffix.mp ends
    have some : lead ≠ [] := by
      rintro rfl
      exact other (String.toList_inj.mp same.symm)
    have length : symbol.length - suffix.length = lead.length := by
      rw [← String.length_toList, ← String.length_toList, ← same, List.length_append,
        Nat.add_sub_cancel]
    rw [isWord_iff] at word
    rw [String.toList_ofList, length, ← same, List.take_left, isWord_iff]
    exact ⟨some, fun c member => word.2 c (same ▸ List.mem_append_left _ member)⟩
  · exact word

private theorem isWordChar_of_isDigit {c : Char} (digit : c.isDigit = true) :
    isWordChar c = true := by
  have bounds : 48 ≤ c.toNat ∧ c.toNat ≤ 57 := by
    simp only [Char.isDigit, Bool.and_eq_true, decide_eq_true_eq, ge_iff_le,
      UInt32.le_iff_toNat_le] at digit
    exact digit
  have ranges : Text.wordRanges = (48, 57) :: Text.wordRanges.tail := rfl
  rw [isWordChar, ranges, Text.Ranges.contains, if_neg (by omega), if_pos bounds.2]

theorem isWord_number (number : Nat) : isWord (toString number).toList = true := by
  have text : (toString number).toList = Nat.toDigits 10 number := by
    rw [Nat.toString_eq_repr, Nat.toList_repr]
  rw [text, isWord_iff]
  refine ⟨by simp, fun c member => isWordChar_of_isDigit ?_⟩
  exact Nat.isDigit_of_mem_toDigits (by decide) (by decide) member

/-- Every name that is made of symbols is a word. -/
theorem isWord_of_makes {name : String} (made : (standard comments tags).Makes name) :
    isWord name.toList = true := by
  induction made with
  | symbol found =>
    cases found
    exact isWord_symbol _
  | base found =>
    cases found
    exact isWord_baseSymbol _
  | stem found =>
    cases found
    exact isWord_stripSuffix _ (isWord_baseSymbol _)
  | lead found =>
    cases found
    decide
  | append _ _ first second => exact isWord_append first second
  | numbered number _ ih => exact isWord_append ih (isWord_number number)

/-! ### Types -/

/-- The types that the default settings name. -/
def standardTypes : List String := ["string", "int64", "float64", "bool", "*js.Object"]

theorem isTypeName_of_mem_standardTypes :
    ∀ text ∈ standardTypes, isTypeName text.toList = true := by
  decide

/-- No tag has a type of its own: it stands for a primitive type or for nothing that is known. -/
theorem basicType_standard (tag : String) :
    (standard comments tags).types.basicType (some tag) =
      (Primitive.ofTag? tag).elim (standard comments tags).types.dynamic
        fun primitive => .ok { name := (standard comments tags).types.primitive primitive } := by
  have own : (standard comments tags).types.override? (.string tag) = .ok none := rfl
  rw [TypeSettings.basicType, TypeSettings.basicTypeOf, if_neg (by simp), own]
  cases known : Primitive.ofTag? tag with
  | none => simp [Json.hashed_string, Json.string?, known, bind, Except.bind]
  | some primitive =>
    simp [Json.hashed_string, Json.string?, known, bind, Except.bind, pure, Except.pure]

/-- The type of a tag is one of these. -/
theorem exists_standardType {tag : Option String} {type : BindingType}
    (found : (standard comments tags).types.basicType tag = .ok type) :
    ∃ text ∈ standardTypes, type.name = .string text := by
  -- without overrides a tag has its primitive type, or else the handle
  cases tag with
  | none =>
    cases found
    exact ⟨"*js.Object", by decide, rfl⟩
  | some tag =>
    rw [basicType_standard] at found
    cases known : Primitive.ofTag? tag with
    | some primitive =>
      rw [known] at found
      cases found
      cases primitive with
      | text => exact ⟨"string", by decide, rfl⟩
      | integer => exact ⟨"int64", by decide, rfl⟩
      | float => exact ⟨"float64", by decide, rfl⟩
      | boolean => exact ⟨"bool", by decide, rfl⟩
    | none =>
      rw [known] at found
      cases found
      exact ⟨"*js.Object", by decide, rfl⟩

variable {allocated : List String}

/-- The type of a property is the name of a type. -/
theorem wellFormed_of_typeFor {property : Property} {type : Code.TypeName}
    (names : ∀ name ∈ allocated, isWord name.toList = true)
    (fits : (standard comments tags).TypeFor allocated property type) : type.WellFormed := by
  cases fits with
  | basic _ _ found =>
    obtain ⟨text, member, same⟩ := exists_standardType found
    rw [Code.TypeName.WellFormed, Code.TypeName.text, same, Json.text_string]
    exact isTypeName_of_mem_standardTypes text member
  | nested member => exact isTypeName_of_isWord (names _ member)

theorem wellFormed_of_slotFor {property : Property} {slot : Code.Slot}
    (names : ∀ name ∈ allocated, isWord name.toList = true)
    (fits : (standard comments tags).SlotFor allocated property slot) : slot.WellFormed :=
  ⟨isWord_of_makes (.base fits.name), wellFormed_of_typeFor names fits.type⟩

theorem wellFormed_of_signatureFor {parameters : List PropertyNode} {result? : Option PropertyNode}
    {signature : Code.Signature} (names : ∀ name ∈ allocated, isWord name.toList = true)
    (fits : (standard comments tags).SignatureFor allocated parameters result? signature) :
    signature.WellFormed := by
  intro slot member
  rcases List.mem_append.mp member with parameter | result
  · obtain ⟨_, -, slotFor⟩ := exists_item_of_mem fits.parameters parameter
    exact wellFormed_of_slotFor names slotFor
  · have fit := fits.result
    rw [Option.mem_toList.mp result] at fit
    cases fit with
    | some slotFor => exact wellFormed_of_slotFor names slotFor

/-- The handle is a name and a type. -/
theorem wellFormed_of_handleFor {handle : Code.Handle}
    (fits : (standard comments tags).HandleFor handle) : handle.WellFormed := by
  obtain ⟨field, type, found, same⟩ := fits
  obtain ⟨name, type'⟩ := handle
  cases found
  cases field
  cases same
  have type : isTypeName "*js.Object".toList = true := by decide
  exact ⟨by simp [Code.Handle.asField], by decide, type, by decide, by decide⟩

/-! ### Fields and constants -/

/-- Tags have one key. -/
theorem eq_of_mem_tagKey? :
    ∀ key ∈ (standard comments tags).settings.tagKey?, key = "js" := by
  intro key found
  have same : (standard comments tags).settings.tagKey? =
      if tags.truthy && true then some "js" else none := rfl
  rw [same] at found
  split at found
  · exact (Option.some.inj found).symm
  · cases found

theorem isPlain_tagKey :
    ∀ key ∈ (standard comments tags).settings.tagKey?, Api.isPlain key = true := by
  intro key found
  rw [eq_of_mem_tagKey? key found]
  decide

theorem wellFormed_of_fieldFor {owner : Info} {node : PropertyNode} {field : Code.Field}
    (names : ∀ name ∈ allocated, isWord name.toList = true) (plain : node.property.isPlain = true)
    (fits : (standard comments tags).FieldFor allocated owner node field) : field.WellFormed := by
  have info := (Property.isPlain_iff.mp plain).1
  obtain ⟨slot, slotFor, name, type⟩ := fits.slot
  have proper := wellFormed_of_slotFor names slotFor
  obtain ⟨tag, single⟩ := isTag_fieldTag (standard comments tags) info isPlain_tagKey (some owner)
  constructor
  · rw [fits.comments]
    exact isNote_docLines _ (Info.isSingle_of_isPlain info)
  · rw [name]
    exact proper.name
  · rw [type]
    exact proper.type
  · rw [fits.tag]
    exact tag
  · rw [fits.tag]
    exact single

theorem wellFormed_of_methodFor {owner : Info} {node : MethodNode} {field : Code.Field}
    (names : ∀ name ∈ allocated, isWord name.toList = true)
    (plain : node.method.info.isPlain = true)
    (fits : (standard comments tags).MethodFor allocated owner node field) : field.WellFormed := by
  obtain ⟨signature, signatureFor, type⟩ := fits.type
  obtain ⟨tag, single⟩ :=
    isTag_fieldTag (standard comments tags) plain isPlain_tagKey (some owner)
  constructor
  · rw [fits.comments]
    exact isNote_docLines _ (Info.isSingle_of_isPlain plain)
  · exact isWord_of_makes (.base fits.name)
  · rw [type]
    exact wellFormed_of_signatureFor names signatureFor
  · rw [fits.tag]
    exact tag
  · rw [fits.tag]
    exact single

theorem wellFormed_of_eventFor {event : Api.Event} {constant : Code.Constant}
    (name : isWord constant.name.toList = true) (plain : event.isPlain = true)
    (fits : (standard comments tags).EventFor event constant) : constant.WellFormed := by
  simp only [Api.Event.isPlain, Bool.and_eq_true] at plain
  refine ⟨?_, name, ?_, ?_⟩
  · rw [fits.comments]
    exact isNote_docLines _ (Info.isSingle_of_isPlain plain.1)
  · rw [fits.literal]
    simp [isLiteral, isQuoted_quote]
  · rw [fits.literal]
    exact lineFeed_not_mem_quote _

/-- Literals that fit the type of their tag are numbers or truth values. -/
theorem plain_of_literalType? {types : TypeSettings} {name : Json} {literals : List String}
    (fit : literalType? types name literals = some true) :
    ∀ literal ∈ literals, Literal.isInteger literal = true ∨ Literal.isFloat literal = true ∨
      Literal.isBoolean literal = true := by
  intro literal member
  unfold literalType? at fit
  split at fit
  · exact .inl (List.all_eq_true.mp (Option.some.inj fit) literal member)
  · split at fit
    · exact .inr (.inl (List.all_eq_true.mp (Option.some.inj fit) literal member))
    · split at fit
      · exact .inr (.inr (List.all_eq_true.mp (Option.some.inj fit) literal member))
      · cases fit

theorem isLiteral_of_literalType? {types : TypeSettings} {name : Json} {literals : List String}
    (fit : literalType? types name literals = some true) :
    ∀ literal ∈ literals, isLiteral literal.toList = true := by
  intro literal member
  rw [isLiteral, String.ofList_toList]
  rcases plain_of_literalType? fit literal member with integer | number | truth
  · simp [integer]
  · simp [number]
  · simp [truth]

/-- Where the base type is not the type of texts, all literals fit the type of the tag. -/
theorem exists_literalType?_of_baseFor {property : Property} {base : Json}
    (fits : (standard comments tags).BaseFor property base)
    (other : base.agrees (standard comments tags).types.stringType = false) :
    ∃ name, literalType? (standard comments tags).types name
      (property.possibleValues.map (·.literal)) = some true := by
  obtain ⟨type, -, same⟩ := fits
  have texts : (standard comments tags).types.stringType = .string "string" := rfl
  split at same
  next fit => exact ⟨type.name, fit⟩
  next =>
    -- the type of texts agrees with itself
    rw [same, texts, Json.agrees_string] at other
    cases other

/-- A base type is the name of a type. Where it is not the type of texts, all literals are of one
kind. -/
theorem baseFor_standard {property : Property} {base : Json}
    (fits : (standard comments tags).BaseFor property base) :
    isTypeName base.text.toList = true ∧
      (base.agrees (standard comments tags).types.stringType = false →
        ∀ value ∈ property.possibleValues, isLiteral value.literal.toList = true) := by
  refine ⟨?_, fun other value there => ?_⟩
  · obtain ⟨type, found, same⟩ := fits
    obtain ⟨text, member, name⟩ := exists_standardType found
    have texts : (standard comments tags).types.stringType = .string "string" := rfl
    split at same
    next =>
      rw [same, name, Json.text_string]
      exact isTypeName_of_mem_standardTypes text member
    next =>
      rw [same, texts, Json.text_string]
      decide
  · obtain ⟨name, fit⟩ := exists_literalType?_of_baseFor fits other
    exact isLiteral_of_literalType? fit value.literal (List.mem_map_of_mem there)

theorem wellFormed_of_memberFor {property : Property} {base : Json} {value : Api.PossibleValue}
    {constant : Code.Constant} (based : (standard comments tags).BaseFor property base)
    (member : value ∈ property.possibleValues) (name : isWord constant.name.toList = true)
    (plain : value.isPlain = true)
    (fits : (standard comments tags).MemberFor
      (base.agrees (standard comments tags).types.stringType) value constant) :
    constant.WellFormed := by
  simp only [Api.PossibleValue.isPlain, Bool.and_eq_true] at plain
  have notes : ∀ line ∈ constant.comments, IsNote line := by
    rw [fits.comments]
    exact isNote_docLines _ (Info.isSingle_of_isPlain plain.1)
  have literal := fits.literal
  -- a quoted literal is a literal for any text, another one only if it fits the base type
  cases quoted : base.agrees (standard comments tags).types.stringType with
  | true =>
    rw [quoted, if_pos rfl] at literal
    refine ⟨notes, name, ?_, ?_⟩
    · rw [literal]
      simp [isLiteral, isQuoted_quote]
    · rw [literal]
      exact lineFeed_not_mem_quote _
  | false =>
    rw [quoted, if_neg (by decide)] at literal
    have shown : Api.isPlain value.literal = true := by
      rw [Api.PossibleValue.literal]
      split
      · simp only [Info.isPlain, Bool.and_eq_true] at plain
        exact plain.1.1.1.1.1
      · exact plain.2
    refine ⟨notes, name, ?_, ?_⟩
    · rw [literal]
      exact (baseFor_standard based).2 quoted value member
    · rw [literal]
      exact Api.lineFeed_not_mem shown

/-! ### Declarations -/

/-- What is declared for a plain entity is read back. -/
theorem wellFormed_of_declarationFor {pending : Pending} {declaration : Code.Declaration}
    (names : ∀ name ∈ allocated, isWord name.toList = true)
    (plain : pending.node.property.isPlain = true)
    (own : ∀ name ∈ declaration.names, isWord name.toList = true)
    (fits : (standard comments tags).DeclarationFor allocated pending declaration) :
    declaration.WellFormed := by
  obtain ⟨info, properties, parameters, values⟩ := Property.isPlain_iff.mp plain
  have notes := isNote_docLines (standard comments tags) (Info.isSingle_of_isPlain info)
  have word : isWord pending.name.toList = true := by
    apply own
    rw [fits.names]
    exact List.mem_cons_self
  cases fits with
  | enumeration kind based members =>
    refine ⟨notes, word, (baseFor_standard based).1, fun constant member => ?_⟩
    obtain ⟨value, there, memberFor⟩ := exists_item_of_mem members member
    refine wellFormed_of_memberFor based there ?_ (values value there) memberFor
    exact own _ (List.mem_cons_of_mem _ (List.mem_map_of_mem member))
  | function kind tag signature => exact ⟨notes, word, wellFormed_of_signatureFor names signature⟩
  | composite kind tag handle fields =>
    refine ⟨notes, word, wellFormed_of_handleFor handle, fun field member => ?_⟩
    obtain ⟨node, there, fieldFor⟩ := exists_item_of_mem fields member
    exact wellFormed_of_fieldFor names (properties _ (mem_below there)) fieldFor

/-- The structure of a plain block is read back. -/
theorem wellFormed_of_structureFor {block : Block} {symbol : String} {handle : Code.Handle}
    {fields : List Code.Field} (names : ∀ name ∈ allocated, isWord name.toList = true)
    (plain : block.isPlain = true) (word : isWord symbol.toList = true)
    (fits : (standard comments tags).StructureFor allocated block (blockProperties block)
      (blockMethods block) handle fields) :
    (Code.Declaration.composite ((standard comments tags).docLines block.info) symbol handle
      fields).WellFormed := by
  have info : block.info.isPlain = true := by
    simp only [Block.isPlain, Bool.and_eq_true] at plain
    exact plain.1.1.1.1
  have notes := isNote_docLines (standard comments tags) (Info.isSingle_of_isPlain info)
  refine ⟨notes, word, wellFormed_of_handleFor fits.handle, fun field member => ?_⟩
  obtain ⟨values, calls, rfl, fieldsFor, methodsFor⟩ := fits.fields
  rcases List.mem_append.mp member with value | call
  · obtain ⟨node, there, fieldFor⟩ := exists_item_of_mem fieldsFor value
    exact wellFormed_of_fieldFor names (isPlain_of_mem_blockProperties plain there) fieldFor
  · obtain ⟨node, there, methodFor⟩ := exists_item_of_mem methodsFor call
    have method := isPlain_of_mem_blockMethods plain there
    simp only [Api.Method.isPlain, Bool.and_eq_true] at method
    exact wellFormed_of_methodFor names method.1.1 methodFor

/-- The constants of the events of a plain block are read back. -/
theorem wellFormed_of_eventsFor {block : Block} {symbol : String} {notes : List String}
    {constants : List Code.Constant} (plain : block.isPlain = true)
    (word : isWord symbol.toList = true)
    (own : ∀ constant ∈ constants, isWord constant.name.toList = true)
    (fits : (standard comments tags).EventsFor symbol (blockEvents block) notes constants) :
    (Code.Declaration.events notes constants).WellFormed := by
  refine ⟨fun line member => ?_, fun constant member => ?_⟩
  · have single := (isLine_of_isTypeName (isTypeName_of_isWord word)).single
    rw [fits.comments] at member
    split at member
    · rw [List.mem_singleton.mp member]
      have split : s!"// Events emitted by {symbol}." =
          "// " ++ ("Events emitted by " ++ symbol ++ ".") := by
        rw [← String.append_assoc, ← String.append_assoc]
        rfl
      rw [split]
      exact isNote_of_single (by simpa using single)
    · cases member
  · obtain ⟨event, there, eventFor⟩ := exists_item_of_mem fits.constants member
    exact wellFormed_of_eventFor (own constant member) (isPlain_of_mem_blockEvents plain there)
      eventFor

/-- What is declared for a plain block itself is read back. -/
theorem wellFormed_of_primaryFor {block : Block} {symbol : String}
    {primary : List Code.Declaration} (names : ∀ name ∈ allocated, isWord name.toList = true)
    (plain : block.isPlain = true)
    (own : ∀ name ∈ primary.flatMap (·.names), isWord name.toList = true)
    (fits : (standard comments tags).PrimaryFor allocated block symbol primary) :
    ∀ declaration ∈ primary, declaration.WellFormed := by
  cases fits with
  | plain none structureFor =>
    have word : isWord symbol.toList = true := own symbol (by simp [Code.Declaration.names])
    simpa using wellFormed_of_structureFor names plain word structureFor
  | withEvents some events structureFor =>
    have word : isWord symbol.toList = true := own symbol (by simp [Code.Declaration.names])
    have first := wellFormed_of_eventsFor plain word (fun constant member => by
      refine own constant.name ?_
      simp only [Code.Declaration.names, List.flatMap_cons, List.mem_append, List.mem_map]
      exact .inl ⟨constant, member, rfl⟩) events
    simpa using ⟨first, wellFormed_of_structureFor names plain word structureFor⟩

/-! ### Passes -/

/-- All names of a pass are words: those of nested entities, and those that are declared. -/
theorem isWord_of_runs {block : Block} {reserved : List String} {start pass : Pass} {count : Nat}
    (started : Pass.start (standard comments tags) block reserved = .ok start)
    (run : Emit.Runs ((standard comments tags).emission block) start count pass) :
    (∀ name ∈ pass.allocated, isWord name.toList = true) ∧
      ∀ declaration ∈ pass.sink.declarations, ∀ name ∈ declaration.names,
        isWord name.toList = true := by
  obtain ⟨primary, nested, -, progress, -⟩ := progress_emission rfl started run
  constructor
  · intro name member
    rw [progress.waits.allocated] at member
    obtain ⟨pending, there, rfl⟩ := List.mem_map.mp member
    exact isWord_of_makes (progress.waits.makes pending there)
  · intro declaration there name member
    rw [progress.written] at there
    exact isWord_of_makes (progress.made name (List.mem_flatMap.mpr ⟨declaration, there, member⟩))

end Generator

end HostBindings
