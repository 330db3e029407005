import HostBindings.Proofs.Imports.Mentions
import HostBindings.Proofs.Names.Fresh
import HostBindings.Proofs.Runs.Nested

/-!
# Names without points

What is made of the symbols of a generator has no point in it, whatever the settings say of
acronyms and of the suffix of modules, as long as that suffix is not part of it. So the name of a
nested declaration mentions no other package.

## Main definitions

* `Undotted` — a name without points
* `Generator.IsUndotted` — a generator whose names are such

## Main results

* `Undotted.not_mentionsHost` — such a name mentions no package
* `Naming.isSymbol_symbol`, `Naming.undotted_stem` — the names of entities
* `Generator.isUndotted_ofSettings` — every generator has such names
-/

namespace HostBindings

open Naming

/-! ### Undotted names -/

/-- A name without points. -/
def Undotted (name : String) : Prop := '.' ∉ name.toList

instance : DecidablePred Undotted := fun name => inferInstanceAs (Decidable ('.' ∉ name.toList))

theorem Undotted.not_mentionsHost {name : String} (undotted : Undotted name) :
    ¬ MentionsHost name :=
  fun mentions => undotted (mentions.subset (by decide))

theorem Undotted.append {first second : String} (one : Undotted first) (two : Undotted second) :
    Undotted (first ++ second) := by
  rw [Undotted, String.toList_append, List.mem_append]
  exact not_or.mpr ⟨one, two⟩

theorem Undotted.numbered {name : String} (undotted : Undotted name) (number : Nat) :
    Undotted (numbered name number) := by
  refine undotted.append fun point => ?_
  rw [Nat.toString_eq_repr, Nat.toList_repr] at point
  exact absurd (Nat.isDigit_of_mem_toDigits (by decide) (by decide) point) (by decide)

theorem Undotted.freshName {candidate : String} (undotted : Undotted candidate)
    (taken : List String) : Undotted (freshName taken candidate) := by
  rcases freshName_cases taken candidate with ⟨-, same⟩ | ⟨-, number, -, same, -⟩
  · rwa [same]
  · rw [same]
    exact undotted.numbered number

namespace Naming

/-- Joined words have no characters but those of words. -/
theorem undotted_joinWords (text : List Char) : '.' ∉ joinWords text :=
  fun point => absurd (List.mem_filter.mp point).2 (by decide)

/-- What is left of a name without a suffix is part of the name. -/
theorem undotted_stripSuffix {symbol : String} (suffix : String) (undotted : Undotted symbol) :
    Undotted (stripSuffix symbol suffix) := by
  unfold stripSuffix
  split
  · intro point
    rw [String.toList_ofList] at point
    exact undotted (List.mem_of_mem_take point)
  · exact undotted

/-- The suffix of a module is stripped from a name that has more to it. -/
theorem stripSuffix_append {symbol : String} (suffix : String) (some : symbol ≠ "") :
    stripSuffix (symbol ++ suffix) suffix = symbol := by
  by_cases none : suffix = ""
  · simp [stripSuffix, none]
  · have other : symbol ++ suffix ≠ suffix := by simpa using some
    have length : (symbol ++ suffix).length - suffix.length = symbol.toList.length := by
      rw [String.length_append, Nat.add_sub_cancel, String.length_toList]
    rw [stripSuffix, if_pos ⟨none, by simp, other⟩, length, String.toList_append,
      List.take_left, String.ofList_toList]

/-! ### Symbols -/

/-- A text that is a name without points. -/
def IsSymbol (value : Json) : Prop := ∃ name, value = .string name ∧ Undotted name ∧ name ≠ ""

/-- The default ways to mend a name give such a text. -/
theorem isSymbol_finish {tables : Tables} (empty : tables.emptyName = .string "Obj")
    (digit : tables.digitLead = .string "X") (text : List Char) :
    IsSymbol (tables.finish (joinWords text)) := by
  have undotted := undotted_joinWords text
  generalize joinWords text = words at undotted ⊢
  cases words with
  | nil => exact ⟨"Obj", empty, by decide, by decide⟩
  | cons c rest =>
    have name : Undotted (String.ofList (c :: rest)) := by simpa [Undotted] using undotted
    have some : String.ofList (c :: rest) ≠ "" := fun same => by
      simpa using congrArg String.toList same
    rw [Tables.finish, digit]
    by_cases leading : Text.isDigit c
    · refine ⟨"X" ++ String.ofList (c :: rest), by rw [if_pos leading]; rfl, ?_, by simp⟩
      exact Undotted.append (by decide) name
    · exact ⟨_, by rw [if_neg leading], name, some⟩

/-- A normalizer mends names as its tables do. -/
theorem finish_ofNormalizer (normalizer : Normalizer) (words : List Char) :
    (Tables.ofNormalizer normalizer).finish words = .string (normalizer.finish words) := by
  cases words with
  | nil => rfl
  | cons c rest =>
    simp only [Tables.finish, Normalizer.finish, Tables.ofNormalizer, Json.text_string]

theorem normalizer?_eq_some {tables : Tables} {normalizer : Normalizer}
    (made : tables.normalizer? = some normalizer) :
    tables.emptyName = .string normalizer.emptyName ∧
      tables.digitLead = .string normalizer.digitLead ∧
      tables.moduleSuffix = .string normalizer.moduleSuffix := by
  simp only [Tables.normalizer?, Option.bind_eq_bind, Option.bind_eq_some_iff] at made
  obtain ⟨_, -, _, -, suffix, isSuffix, empty, isEmpty, digit, isDigit, same⟩ := made
  cases same
  have isText {value : Json} {text : String} (read : value.string? = some text) :
      value = .string text := by
    cases value <;> simp_all [Json.string?]
  exact ⟨isText isEmpty, isText isDigit, isText isSuffix⟩

/-- Every name has such a symbol, if it has any. -/
theorem isSymbol_symbol {tables : Tables} (empty : tables.emptyName = .string "Obj")
    (digit : tables.digitLead = .string "X") {name : String} {value : Json}
    (found : (Scheme.ofTables tables).symbol name = .ok value) : IsSymbol value := by
  unfold Scheme.ofTables at found
  split at found
  next normalizer made =>
    obtain ⟨emptyName, digitLead, -⟩ := normalizer?_eq_some made
    cases found
    rw [Normalizer.symbol, Normalizer.core, ← finish_ofNormalizer]
    exact isSymbol_finish (emptyName.symm.trans empty) (digitLead.symm.trans digit) _
  next =>
    obtain ⟨text, -, same⟩ := bind_eq_ok_iff.mp found
    cases same
    exact isSymbol_finish empty digit text

/-- What is stripped of the suffix of modules is what it was put behind. -/
theorem eq_of_stripValue_joinValues {name : String} {suffix joined stripped : Json}
    (some : name ≠ "") (join : joinValues (.string name) suffix = .ok joined)
    (strip : stripValue joined suffix = .ok stripped) : stripped = .string name := by
  cases suffix with
  | string suffix =>
    cases join
    unfold stripValue at strip
    split at strip
    next off =>
      have none : suffix = "" := by simpa [Json.truthy] using off
      cases strip
      rw [none, String.append_empty]
    next =>
      cases strip
      rw [stripSuffix_append suffix some]
  | _ => cases join

theorem undotted_of_stripValue {name : String} {suffix stripped : Json} (undotted : Undotted name)
    (strip : stripValue (.string name) suffix = .ok stripped) :
    ∃ stem, stripped = .string stem ∧ Undotted stem := by
  unfold stripValue at strip
  split at strip
  · cases strip
    exact ⟨name, rfl, undotted⟩
  · cases suffix with
    | string suffix =>
      cases strip
      exact ⟨_, rfl, undotted_stripSuffix suffix undotted⟩
    | _ => cases strip

/-- Every entity has a stem without points, if it has any. -/
theorem undotted_stem {tables : Tables} (empty : tables.emptyName = .string "Obj")
    (digit : tables.digitLead = .string "X") {info : Api.Info} {value : Json}
    (found : (Scheme.ofTables tables).stem info = .ok value) :
    ∃ name, value = .string name ∧ Undotted name := by
  have symbols {symbol : Json} : (Scheme.ofTables tables).symbol info.name = .ok symbol →
      IsSymbol symbol := isSymbol_symbol empty digit
  unfold Scheme.ofTables at found symbols
  -- with texts in all tables the stem is computed on characters, otherwise on values
  split at found
  next normalizer made =>
    rw [made] at symbols
    obtain ⟨name, same, undotted, some⟩ := symbols rfl
    cases found
    rw [Normalizer.stem, Normalizer.baseSymbol, Json.string.inj same]
    split
    · exact ⟨_, rfl, by rwa [stripSuffix_append _ some]⟩
    · exact ⟨_, rfl, undotted_stripSuffix _ undotted⟩
  next made =>
    rw [made] at symbols
    obtain ⟨base, based, strip⟩ := bind_eq_ok_iff.mp found
    obtain ⟨symbol, spelt, based⟩ := bind_eq_ok_iff.mp based
    obtain ⟨name, rfl, undotted, some⟩ := symbols spelt
    split at based
    · exact ⟨name, eq_of_stripValue_joinValues some based strip, undotted⟩
    · cases based
      exact undotted_of_stripValue undotted strip

end Naming

/-! ### Generators -/

namespace Generator

variable {settings : Settings} {generator : Generator}

/-- A generator whose names have no points in them. -/
structure IsUndotted (generator : Generator) : Prop where
  /-- The symbols of names. -/
  symbol : ∀ name symbol, generator.symbol name = .ok symbol → Undotted symbol
  /-- The stems of entities. -/
  stem : ∀ info stem, generator.stem info = .ok stem → Undotted stem

theorem isUndotted_ofSettings (configured : Generator.ofSettings settings = .ok generator) :
    generator.IsUndotted := by
  obtain ⟨extra, types, -, -, rfl⟩ := ofSettings_eq_ok.mp configured
  constructor
  · intro name symbol found
    obtain ⟨value, spelt, rfl⟩ := map_eq_ok_iff.mp found
    obtain ⟨_, rfl, undotted, -⟩ := isSymbol_symbol rfl rfl spelt
    exact undotted
  · intro info stem found
    obtain ⟨value, spelt, rfl⟩ := map_eq_ok_iff.mp found
    obtain ⟨_, rfl, undotted⟩ := undotted_stem rfl rfl spelt
    exact undotted

end Generator

end HostBindings
