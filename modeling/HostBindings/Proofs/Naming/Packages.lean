import HostBindings.Proofs.Runs.Directories
import HostBindings.Proofs.Settings.Declared
import HostBindings.Proofs.Text.Letters

/-!
# The packages of blocks

The package of a block is named by what is left of its symbol in lower case, so the name is made of
lower-case letters and digits and begins with a letter. Such a name meets all rules for package
names but one: it can be a reserved word. It is one just where what is left of the symbol is one,
since no reserved word begins with the letter that a name is mended with.

## Main definitions

* `Naming.IsPackageName` — a lower-case letter, and letters and digits behind it
* `Naming.packageRest` — what is left of a symbol

## Main results

* `Naming.IsPackageName.packageFlaws_eq` — the rule that such a name can break
* `Naming.packageOfSymbol_mem_reservedWords` — the symbols whose packages break it
* `Generator.package_flaws` — the packages of blocks, under any settings
-/

namespace HostBindings

open Api (Block)

namespace Naming

variable {c d : Char} {name symbol : String}

/-! ### The characters of package names -/

/-- The classes of a character that stays in a package name. -/
private theorem classes_of_isPackageChar (part : isPackageChar c = true) :
    Text.identifierContinueRanges.contains c.toNat = true ∧
      Text.Shift.find? Text.lowerShifts c.toNat = none ∧
      if 97 ≤ c.toNat then
        Text.identifierStartRanges.contains c.toNat = true ∧ Text.isUpper c = false
      else Text.isDigit c = true := by
  have small : c.toNat < 123 := by
    simp only [isPackageChar, Bool.or_eq_true, Bool.and_eq_true, decide_eq_true_eq] at part
    rcases part with ⟨-, high⟩ | ⟨-, high⟩
    · exact Nat.lt_succ_of_le (show c.toNat ≤ 'z'.toNat from high)
    · exact Nat.lt_of_le_of_lt (show c.toNat ≤ '9'.toNat from high) (by decide)
  revert part
  refine Text.of_toNat_lt small ?_
  decide +kernel

/-- Where it is no digit, it is a letter. -/
theorem letter_of_isPackageChar (part : isPackageChar c = true) (letter : Text.isDigit c = false) :
    'a' ≤ c ∧ c ≤ 'z' := by
  obtain ⟨-, -, kind⟩ := classes_of_isPackageChar part
  simp only [isPackageChar, Bool.or_eq_true, Bool.and_eq_true, decide_eq_true_eq] at part
  rcases part with small | ⟨-, high⟩
  · exact small
  · have below : ¬ 97 ≤ c.toNat := by
      have : c.toNat ≤ '9'.toNat := high
      have : '9'.toNat = 57 := rfl
      omega
    rw [if_neg below, letter] at kind
    cases kind

theorem ne_of_isPackageChar (part : isPackageChar c = true) (other : isPackageChar d = false) :
    c ≠ d := by
  rintro rfl
  rw [part] at other
  cases other

/-- It is its own lower case. -/
theorem kept_of_isPackageChar (part : isPackageChar c = true) : Text.Kept c where
  placeless := ne_of_isPackageChar part (by decide)
  undotted := ne_of_isPackageChar part (by decide)
  unshifted := (classes_of_isPackageChar part).2.1

/-! ### Package names -/

/-- A name of lower-case letters and digits that begins with a letter. -/
structure IsPackageName (name : String) : Prop where
  /-- It is not empty, and begins with a lower-case letter. -/
  begins : ∃ c rest, name.toList = c :: rest ∧ 'a' ≤ c ∧ c ≤ 'z'
  /-- It has letters and digits only. -/
  parts : ∀ c ∈ name.toList, isPackageChar c = true

namespace IsPackageName

/-- A package name is its own lower case. -/
theorem lowerCase_eq (package : IsPackageName name) : Text.lowerCase name = name := by
  rw [Text.lowerCase, Text.toLower,
    Text.toLowerAfter_eq fun c member => kept_of_isPackageChar (package.parts c member),
    String.ofList_toList]

theorem no_underscore (package : IsPackageName name) : '_' ∉ name.toList := by
  intro mark
  exact ne_of_isPackageChar (package.parts '_' mark) (d := '_') (by decide) rfl

/-- The rules for package names leave one thing to be said against it. -/
theorem packageFlaws_eq (package : IsPackageName name) :
    packageFlaws name = if name ∈ reservedWords then [.reserved name] else [] := by
  obtain ⟨c, rest, spelt, low, -⟩ := package.begins
  have parts := package.parts
  have plain := package.no_underscore
  rw [spelt] at parts plain
  -- the first character is a letter, which may begin an identifier
  obtain ⟨-, -, letter⟩ := classes_of_isPackageChar (parts c List.mem_cons_self)
  rw [if_pos (show 97 ≤ c.toNat from low)] at letter
  have identifier : Text.isIdentifier (c :: rest) = true := by
    rw [Text.isIdentifier, letter.1, Bool.true_and, List.all_eq_true]
    intro d member
    exact (classes_of_isPackageChar (parts d (List.mem_cons_of_mem c member))).1
  have unmarked : (c :: rest).contains '_' = false := by
    rwa [List.contains_eq_mem, decide_eq_false_iff_not]
  unfold packageFlaws
  rw [spelt]
  simp only [identifier, letter.2, unmarked, package.lowerCase_eq, if_true, Bool.false_eq_true,
    if_false, List.nil_append, List.contains_eq_mem, decide_eq_true_eq]

end IsPackageName

/-! ### What is left of a symbol -/

/-- What is left of a symbol in lower case: its letters and digits. -/
def packageRest (symbol : String) : List Char :=
  (Text.toLower symbol.toList).filter isPackageChar

theorem isPackageName_packageOfSymbol (symbol : String) :
    IsPackageName (packageOfSymbol symbol) where
  begins := by
    unfold packageOfSymbol
    split
    · exact ⟨'x', [], rfl, by decide, by decide⟩
    next first rest left =>
      split
      · exact ⟨'x', first :: rest, String.toList_ofList, by decide, by decide⟩
      next letter =>
        have part : isPackageChar first = true :=
          (List.mem_filter.mp (left ▸ List.mem_cons_self)).2
        exact ⟨first, rest, String.toList_ofList,
          letter_of_isPackageChar part (by simpa using letter)⟩
  parts c := isPackageChar_of_mem

/-- A reserved word begins neither with a digit nor with the letter that names are mended with. -/
private theorem table_reservedWords_first :
    reservedWords.all (fun word =>
      word.toList.head?.any fun c => c != 'x' && !Text.isDigit c) = true := by
  decide +kernel

/-- The package of a symbol is a reserved word where what is left of the symbol is one. -/
theorem packageOfSymbol_mem_reservedWords :
    packageOfSymbol symbol ∈ reservedWords ↔
      String.ofList (packageRest symbol) ∈ reservedWords := by
  have begins {c : Char} {rest : List Char}
      (reserved : String.ofList (c :: rest) ∈ reservedWords) :
      c ≠ 'x' ∧ Text.isDigit c = false := by
    have known := List.all_eq_true.mp table_reservedWords_first _ reserved
    simpa using known
  unfold packageOfSymbol packageRest
  split
  next left =>
    rw [left]
    decide
  next c rest left =>
    rw [left]
    split
    next digit =>
      -- neither the mended name nor the rest itself is reserved
      constructor
      · intro mended
        exact absurd rfl (begins mended).1
      · intro reserved
        rw [(begins reserved).2] at digit
        cases digit
    next => rfl

end Naming

namespace Generator

open Naming (IsPackageName packageFlaws packageRest reservedWords)

variable {settings : Settings} {generator : Generator}

/-- Under any settings the package of a block, where it has one, is a lower-case letter with
lower-case letters and digits behind it, so the rules for package names can refuse it only for being
a reserved word; it is one where what is left of the symbol of the block is one. Under settings of
the declared types every block has a package. -/
theorem package_flaws (configured : Generator.ofSettings settings = .ok generator)
    (block : Block) :
    (settings.IsDeclared → ∃ name, generator.packageOf block = .ok name) ∧
      ∀ name, generator.packageOf block = .ok name →
        IsPackageName name ∧ (packageFlaws name = [] ↔ name ∉ reservedWords) ∧
          (∀ flaw ∈ packageFlaws name, flaw = .reserved name) ∧
          ∃ symbol, generator.baseSymbol block.info = .ok symbol ∧
            (name ∈ reservedWords ↔ String.ofList (packageRest symbol) ∈ reservedWords) := by
  constructor
  · intro declared
    obtain ⟨symbol, spelt⟩ := (declared.supplies configured).spells block.info
    exact ⟨_, by rw [packageOf, spelt]; rfl⟩
  intro name named
  obtain ⟨symbol, spelt, rfl⟩ : ∃ symbol, generator.baseSymbol block.info = .ok symbol ∧
      name = Naming.packageOfSymbol symbol := by
    obtain ⟨symbol, spelt, same⟩ := bind_eq_ok_iff.mp named
    cases same
    exact ⟨symbol, spelt, rfl⟩
  have package := Naming.isPackageName_packageOfSymbol symbol
  refine ⟨package, ?_, ?_, symbol, spelt, Naming.packageOfSymbol_mem_reservedWords⟩
  all_goals rw [package.packageFlaws_eq]
  · simp
  · intro flaw member
    split at member
    · exact List.mem_singleton.mp member
    · cases member

/-- An object. -/
def objectSample : Block := { info := { name := "tray", rawType := .single "Object" } }

/-- With the default settings its package is its name, and keeps all rules. -/
theorem package_flaws_objectSample :
    ∃ generator, Generator.ofSettings {} = .ok generator ∧
      generator.packageOf objectSample = .ok "tray" ∧ packageFlaws "tray" = [] := by
  obtain ⟨generator, configured⟩ : ∃ generator, Generator.ofSettings {} = .ok generator := ⟨_, rfl⟩
  have named := (package_flaws configured objectSample).2 "tray"
  obtain rfl := Except.ok.inj configured
  exact ⟨_, configured, by decide +kernel, (named (by decide +kernel)).2.1.mpr (by decide)⟩

/-- The package of an object named `func` is a reserved word. -/
example : Naming.packageFlaws (Naming.packageOfSymbol (Naming.normalize "func")) =
    [.reserved "func"] := by
  decide +kernel

end Generator

end HostBindings
