import HostBindings.Proofs.Emission.Parts
import HostBindings.Text.WordChar
import Mathlib.Data.List.TakeWhile

/-!
# Mentions of the host package

Which type expressions mention a name of the host package, and which of them are found to need its
import. A type expression may be any text of the settings, such as a map or a list of handles. What
is found are mentions upfront: those with nothing but pointers and brackets before them. The types
that stand for primitive tags are not looked at.

## Main definitions

* `MentionsHost` — a type expression mentions a name of the host package
* `TypeSettings.Detects` — a type expression whose mention is found
* `TypeSettings.Brings` — the imports that a type has against what its expression mentions

## Main results

* `mentionsHost_iff` — mentions are found by one pass over a text
* `MentionsHost.of_upfront` — what is found is a mention
* `TypeSettings.brings_hostHandle`, `TypeSettings.brings_basicType` — the types of a generator
-/

namespace HostBindings

/-! ### Mentions in a text -/

/-- A type expression mentions a name of the host package: somewhere in it the package is named, and
not as the end of a longer word. -/
def MentionsHost (expression : String) : Prop :=
  ∃ before after, expression.toList = before ++ "js.".toList ++ after ∧
    ∀ c, before.getLast? = some c → Text.isWordChar c = false

/-- Whether a mention begins somewhere in a text; `inWord` says whether a word goes on into it. -/
def searchHost (inWord : Bool) : List Char → Bool
  | [] => false
  | c :: rest =>
    !inWord && "js.".toList.isPrefixOf (c :: rest) || searchHost (Text.isWordChar c) rest

theorem searchHost_iff {inWord : Bool} {text : List Char} :
    searchHost inWord text = true ↔
      ∃ before after, text = before ++ "js.".toList ++ after ∧
        (∀ c, before.getLast? = some c → Text.isWordChar c = false) ∧
        (before = [] → inWord = false) := by
  -- on the text, where `inWord` says whether the character before is one of a word
  induction text generalizing inWord with
  | nil => simp [searchHost]
  | cons first rest ih =>
    rw [searchHost, Bool.or_eq_true, Bool.and_eq_true, Bool.not_eq_true', ih]
    constructor
    · rintro (⟨outside, begins⟩ | ⟨before, after, rfl, last, inside⟩)
      · obtain ⟨after, same⟩ := List.isPrefixOf_iff_prefix.mp begins
        exact ⟨[], after, same.symm, by simp, fun _ => outside⟩
      · refine ⟨first :: before, after, rfl, ?_, by simp⟩
        cases before with
        | nil => simpa using inside rfl
        | cons => simpa using last
    · rintro ⟨_ | ⟨c, before⟩, after, same, last, inside⟩
      · exact .inl ⟨inside rfl, List.isPrefixOf_iff_prefix.mpr ⟨after, same.symm⟩⟩
      · cases same
        refine .inr ⟨before, after, rfl, fun d end' => last d ?_, fun none => last _ ?_⟩
        · rw [List.getLast?_cons, end']
          rfl
        · rw [none]
          rfl

theorem mentionsHost_iff {expression : String} :
    MentionsHost expression ↔ searchHost false expression.toList = true := by
  simp only [searchHost_iff, MentionsHost, implies_true, and_true]

instance : DecidablePred MentionsHost := fun _ => decidable_of_iff _ mentionsHost_iff.symm

example : MentionsHost "[]*js.Object" ∧ ¬ MentionsHost "[]*jjs.Object" := by decide

/-- A text with a mention has all characters of the name of the package, and the point behind. -/
theorem MentionsHost.subset {expression : String} (mentions : MentionsHost expression) :
    "js.".toList ⊆ expression.toList := by
  obtain ⟨before, after, same, -⟩ := mentions
  rw [same]
  exact fun c member => List.mem_append_left _ (List.mem_append_right _ member)

/-- What is found behind pointers and brackets is a mention. -/
theorem MentionsHost.of_upfront {expression : String} (found : mentionsHost expression = true) :
    MentionsHost expression := by
  let isLead : Char → Bool := fun c => c == '*' || c == '[' || c == ']'
  obtain ⟨after, same⟩ := List.isPrefixOf_iff_prefix.mp found
  refine ⟨expression.toList.takeWhile isLead, after, ?_, fun c last => ?_⟩
  · rw [List.append_assoc, same]
    exact (List.takeWhile_append_dropWhile).symm
  · have lead := List.mem_takeWhile_imp (List.mem_of_getLast? last)
    simp only [isLead, Bool.or_eq_true, beq_iff_eq] at lead
    rcases lead with (rfl | rfl) | rfl <;> decide

-- a mention behind the key of a map is not found
example : MentionsHost "map[string]*js.Object" ∧ mentionsHost "map[string]*js.Object" = false := by
  decide

namespace TypeSettings

/-! ### Primitive types -/

/-- A value that is switched off does not mention the host package. -/
theorem not_mentionsHost_of_off {value : Json} (off : value.truthy = false) :
    ¬ MentionsHost value.text := by
  intro mentions
  -- a mention has a `j`, and no value that is switched off is shown with one
  have letter := mentions.subset (show 'j' ∈ "js.".toList by decide)
  revert letter
  cases value with
  | null => decide
  | bool value => cases value <;> revert off <;> decide
  | int value =>
    simp only [Json.truthy, bne_eq_false_iff_eq] at off
    rw [off]
    decide
  | float value =>
    cases value with
    | finite negative magnitude =>
      simp only [Json.truthy, Binary64.isZero, Bool.not_eq_false', beq_iff_eq] at off
      change 'j' ∉ (Binary64.text (.finite negative magnitude)).toList
      rw [Binary64.text, off, if_pos rfl]
      cases negative <;> decide
    | infinite | notANumber => cases off
  | string value =>
    simp only [Json.truthy, bne_eq_false_iff_eq] at off
    rw [off]
    decide
  | array items =>
    cases items with
    | nil => decide
    | cons => cases off
  | object members =>
    cases members with
    | nil => decide
    | cons => cases off

/-- Neither does a value that passes a check against types that do not. -/
theorem not_mentionsHost_of_checkChoice {value : Json} {choices : List String}
    {refusal : String → Settings.ConfigError} (checked : checkChoice value choices refusal = .ok ())
    (plain : ∀ choice ∈ choices, ¬ MentionsHost choice) : ¬ MentionsHost value.text := by
  unfold checkChoice at checked
  split at checked
  next off => exact not_mentionsHost_of_off (by simpa using off)
  next =>
    split at checked
    next name _ =>
      split at checked
      next listed => exact plain name (by simpa using listed)
      next => cases checked
    next => cases checked
    next => cases checked
    next => cases checked

/-- Settings that are accepted when a generator is made. -/
structure Accepted (types : TypeSettings) : Prop where
  /-- The type of integers. -/
  integers : ¬ MentionsHost types.intType.text
  /-- The type of other numbers. -/
  floats : ¬ MentionsHost types.floatType.text

/-- A type expression whose mention of the host package is found: it is upfront, and the expression
is neither the type of texts nor that of truth values. -/
structure Detects (types : TypeSettings) (expression : String) : Prop where
  /-- The mention is upfront. -/
  upfront : mentionsHost expression = true
  /-- The expression is not the type of texts. -/
  texts : expression ≠ types.stringType.text
  /-- The expression is not the type of truth values. -/
  truths : expression ≠ types.boolType.text

variable {types : TypeSettings}

theorem accepted_ofSettings {settings : Settings}
    (found : TypeSettings.ofSettings settings = .ok types) : types.Accepted := by
  unfold ofSettings at found
  split at found
  next custom _ =>
    simp only [ofMembers, bind_eq_ok_iff] at found
    obtain ⟨_, integers, _, floats, found⟩ := found
    have numbers := And.intro (not_mentionsHost_of_checkChoice integers (by decide))
      (not_mentionsHost_of_checkChoice floats (by decide))
    split at found
    · cases found
      exact ⟨numbers.1, numbers.2⟩
    · split at found
      · cases found
      · cases found
        exact ⟨numbers.1, numbers.2⟩
    · cases found
      exact ⟨numbers.1, numbers.2⟩
  next => cases found

/-- Nothing is found in a primitive type. -/
theorem Accepted.not_detects (accepted : types.Accepted) (primitive : Primitive) :
    ¬ types.Detects (types.primitive primitive).text := by
  intro detects
  cases primitive with
  | text => exact detects.texts rfl
  | integer => exact accepted.integers (.of_upfront detects.upfront)
  | float => exact accepted.floats (.of_upfront detects.upfront)
  | boolean => exact detects.truths rfl

/-! ### Types with their imports -/

/-- A type of a generator: it is a text of the settings or a primitive type, and has the import that
its expression needs. -/
structure Brings (types : TypeSettings) (type : BindingType) : Prop where
  /-- Where the type comes from. -/
  origin : (∃ text, type.name = .string text) ∨ ∃ primitive, type.name = types.primitive primitive
  /-- It imports the host package or nothing. -/
  only : type.imports = [] ∨ type.imports = [types.hostImport]
  /-- It is imported for mentions only. -/
  used : types.hostImport ∈ type.imports → MentionsHost type.name.text
  /-- It is imported for all mentions that are found. -/
  needed : types.Detects type.name.text → types.hostImport ∈ type.imports

section Imported

variable (host : types.hostImport.truthy = true)

include host

/-- The import of a type expression, which has to be a text. -/
theorem eq_of_importsFor {name : Json} {imports : List Json}
    (found : types.importsFor name = .ok imports) :
    ∃ text, name = .string text ∧
      imports = if mentionsHost text then [types.hostImport] else [] := by
  rw [importsFor, host, if_neg (by decide)] at found
  obtain ⟨text, isText, found⟩ := bind_eq_ok_iff.mp found
  cases name with
  | string =>
    obtain rfl := Except.ok.inj isText
    refine ⟨_, rfl, ?_⟩
    split at found
    next mentioned =>
      obtain ⟨path, hashed, same⟩ := bind_eq_ok_iff.mp found
      cases same
      rw [Generator.hashed_eq_ok hashed, if_pos mentioned]
    next other =>
      cases found
      rw [if_neg other]
  | _ => cases isText

theorem brings_typeOf {name : Json} {type : BindingType} (found : types.typeOf name = .ok type) :
    types.Brings type := by
  obtain ⟨imports, needed, same⟩ := bind_eq_ok_iff.mp found
  cases same
  obtain ⟨text, rfl, rfl⟩ := eq_of_importsFor host needed
  refine ⟨.inl ⟨text, rfl⟩, ?_, fun imported => ?_, fun detects => ?_⟩
  · by_cases mentioned : mentionsHost text <;> simp [mentioned]
  · by_cases mentioned : mentionsHost text
    · exact .of_upfront mentioned
    · simp [mentioned] at imported
  · have mentioned : mentionsHost text = true := detects.upfront
    simp [mentioned]

theorem brings_hostHandle {type : BindingType} (found : types.hostHandle = .ok type) :
    types.Brings type :=
  brings_typeOf host found

theorem brings_dynamic {type : BindingType} (found : types.dynamic = .ok type) :
    types.Brings type := by
  obtain ⟨plain, inner, same⟩ := bind_eq_ok_iff.mp found
  cases same
  have brings := brings_typeOf host inner
  exact ⟨brings.origin, brings.only, brings.used, brings.needed⟩

/-- The type of a tag: the one that is set for it, a primitive type, or the opaque handle. -/
theorem brings_basicType {tag : Option String} {type : BindingType} (accepted : types.Accepted)
    (found : types.basicType tag = .ok type) : types.Brings type := by
  cases tag with
  | none =>
    obtain ⟨plain, inner, same⟩ := bind_eq_ok_iff.mp found
    cases same
    have brings := brings_dynamic host inner
    exact ⟨brings.origin, brings.only, brings.used, brings.needed⟩
  | some tag =>
    simp only [basicType, basicTypeOf] at found
    rw [if_neg (by simp)] at found
    obtain ⟨override, -, found⟩ := bind_eq_ok_iff.mp found
    -- a type that is set for the tag comes before the primitive ones, and the handle last
    split at found
    next => exact brings_typeOf host found
    next =>
      obtain ⟨_, -, found⟩ := bind_eq_ok_iff.mp found
      split at found
      next primitive _ =>
        cases found
        exact ⟨.inr ⟨primitive, rfl⟩, .inl rfl, by simp,
          fun detects => absurd detects (accepted.not_detects primitive)⟩
      next => exact brings_dynamic host found

end Imported

end TypeSettings

end HostBindings
