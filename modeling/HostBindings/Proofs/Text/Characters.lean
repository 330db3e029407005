import HostBindings.Literal
import HostBindings.Proofs.Text.Trimming
import HostBindings.Text.WordChar

/-!
# Characters of words and literals

A blank is neither part of a word nor part of a number, so words and literals are not touched by
trimming. A line of code is a text without a line feed that does not end with a blank.

## Main definitions

* `Text.IsLine` — a line that trimming leaves as it is

## Main results

* `Text.not_isBlank_of_isWordChar`, `Text.not_isBlank_of_isDecimalDigit`
* `Literal.forall_of_isDigits`, `Literal.forall_of_isDecimal` — the characters of numbers
* `Literal.isLine_of_isInteger`, `Literal.isLine_of_isFloat`, `Literal.isLine_of_isBoolean`
-/

namespace HostBindings.Text

/-! ### Blanks -/

private theorem not_contains_of_mem_blankRanges :
    ∀ range ∈ blankRanges, ∀ code ∈ List.range' range.1 (range.2 + 1 - range.1),
      wordRanges.contains code = false ∧ decimalRanges.contains code = false := by
  decide +kernel

/-- A blank is in neither of the two classes. -/
private theorem not_contains_of_isBlank {c : Char} (blank : isBlank c = true) :
    wordRanges.contains c.toNat = false ∧ decimalRanges.contains c.toNat = false := by
  obtain ⟨range, member, low, high⟩ := Ranges.exists_of_contains blank
  refine not_contains_of_mem_blankRanges range member c.toNat ?_
  exact List.mem_range'_1.mpr ⟨low, by omega⟩

theorem not_isBlank_of_isWordChar {c : Char} (word : isWordChar c = true) : isBlank c = false := by
  by_contra blank
  have none := (not_contains_of_isBlank (by simpa using blank)).1
  rw [isWordChar, none] at word
  cases word

theorem not_isBlank_of_isDecimalDigit {c : Char} (digit : isDecimalDigit c = true) :
    isBlank c = false := by
  by_contra blank
  have none := (not_contains_of_isBlank (by simpa using blank)).2
  rw [isDecimalDigit, none] at digit
  cases digit

theorem isBlank_lineFeed : isBlank '\n' = true := by decide

/-! ### Lines -/

/-- A text without a line feed that ends with a character that is not blank. -/
structure IsLine (text : List Char) : Prop where
  /-- It is a single line. -/
  single : '\n' ∉ text
  /-- It does not end with a blank. -/
  ends : ∃ c, text.getLast? = some c ∧ isBlank c = false

namespace IsLine

variable {text more : List Char}

theorem ne_nil (line : IsLine text) : text ≠ [] := by
  rintro rfl
  obtain ⟨c, last, -⟩ := line.ends
  cases last

/-- Trimming leaves a line as it is. -/
theorem trimRight_eq (line : IsLine text) : trimRight text = text := by
  obtain ⟨c, last, plain⟩ := line.ends
  rw [trimRight, dropTail_eq_rdropWhile, List.rdropWhile_eq_self_iff]
  intro some
  rw [List.getLast?_eq_some_getLast some, Option.some.injEq] at last
  simp [last, plain]

/-- What stands before a line is part of it. -/
theorem append (single : '\n' ∉ text) (line : IsLine more) : IsLine (text ++ more) where
  single := by simp [single, line.single]
  ends := by
    obtain ⟨c, last, plain⟩ := line.ends
    exact ⟨c, by simp [List.getLast?_append, last], plain⟩

/-- A text without blanks. -/
theorem of_all (some : text ≠ []) (plain : ∀ c ∈ text, isBlank c = false) : IsLine text where
  single feed := by simpa [isBlank_lineFeed] using plain _ feed
  ends := ⟨_, List.getLast?_eq_some_getLast some, plain _ (List.getLast_mem some)⟩

end IsLine

end HostBindings.Text

namespace HostBindings.Literal

open Text (IsLine isBlank)

variable {text : String}

private theorem dropLineEnd_eq {text : List Char} (single : '\n' ∉ text) :
    dropLineEnd text = text := by
  unfold dropLineEnd
  refine if_neg fun last => single ?_
  exact List.mem_of_getLast? last

/-! ### The characters of numbers -/

section Numbers

variable {p : Char → Prop} {chars : List Char}

theorem ne_nil_of_isDigits (digits : isDigits chars = true) : chars ≠ [] := by
  rintro rfl
  cases digits

/-- What goes for decimal digits goes for all characters of a text of them. -/
theorem forall_of_isDigits (digit : ∀ c, Text.isDecimalDigit c = true → p c)
    (digits : isDigits chars = true) : ∀ c ∈ chars, p c := by
  simp only [isDigits, Bool.and_eq_true, List.all_eq_true] at digits
  exact fun c member => digit c (digits.2 c member)

/-- What goes for the marks of an exponent too goes for all its characters. -/
theorem forall_of_isExponent (digit : ∀ c, Text.isDecimalDigit c = true → p c)
    (mark : ∀ c ∈ "eE+-".toList, p c) (exponent : isExponent chars = true) :
    ∀ c ∈ chars, p c := by
  cases chars with
  | nil => simp
  | cons c rest =>
    simp only [isExponent, Bool.and_eq_true, Bool.or_eq_true, beq_iff_eq] at exponent
    obtain ⟨letter, digits⟩ := exponent
    have first : p c := by rcases letter with rfl | rfl <;> exact mark _ (by decide)
    have others : ∀ d ∈ rest, p d := by
      split at digits
      · exact List.forall_mem_cons.mpr ⟨mark _ (by decide), forall_of_isDigits digit digits⟩
      · exact List.forall_mem_cons.mpr ⟨mark _ (by decide), forall_of_isDigits digit digits⟩
      · exact forall_of_isDigits digit digits
    exact List.forall_mem_cons.mpr ⟨first, others⟩

theorem ne_nil_of_isDecimal (decimal : isDecimal chars = true) : chars ≠ [] := by
  rintro rfl
  cases decimal

/-- What goes for the point too goes for all characters of a decimal number. -/
theorem forall_of_isDecimal (digit : ∀ c, Text.isDecimalDigit c = true → p c)
    (mark : ∀ c ∈ ".eE+-".toList, p c) (decimal : isDecimal chars = true) : ∀ c ∈ chars, p c := by
  -- it goes for digits, so what is behind them decides
  have split (text : List Char) (rest : ∀ c ∈ afterDigits text, p c) : ∀ c ∈ text, p c := by
    intro c member
    rw [← List.takeWhile_append_dropWhile (p := Text.isDecimalDigit) (l := text),
      List.mem_append] at member
    rcases member with inside | other
    · exact digit c (List.mem_takeWhile_imp inside)
    · exact rest c other
  have point : p '.' := mark _ (by decide)
  have exponent {text : List Char} (found : isExponent text = true) : ∀ c ∈ text, p c :=
    forall_of_isExponent digit (fun c member => mark c (List.mem_cons_of_mem _ member)) found
  unfold isDecimal at decimal
  split at decimal
  next fraction found =>
    simp only [Bool.and_eq_true] at decimal
    refine split chars ?_
    rw [found]
    exact List.forall_mem_cons.mpr ⟨point, split fraction (exponent decimal.2)⟩
  · simp only [Bool.and_eq_true, decide_eq_true_eq] at decimal
    exact split chars (exponent decimal.2)

end Numbers

/-! ### Literals that are lines -/

private theorem of_dropMinus {text : List Char} (line : IsLine (dropMinus text)) : IsLine text := by
  unfold dropMinus at line
  split at line
  · rw [← List.singleton_append]
    exact .append (by decide) line
  · exact line

theorem isLine_of_isInteger (single : '\n' ∉ text.toList) (integer : isInteger text = true) :
    IsLine text.toList := by
  rw [isInteger, dropLineEnd_eq single] at integer
  have plain := forall_of_isDigits (fun _ => Text.not_isBlank_of_isDecimalDigit) integer
  exact of_dropMinus (.of_all (ne_nil_of_isDigits integer) plain)

theorem isLine_of_isFloat (single : '\n' ∉ text.toList) (number : isFloat text = true) :
    IsLine text.toList := by
  rw [isFloat, dropLineEnd_eq single] at number
  have marks : ∀ c ∈ ".eE+-".toList, Text.isBlank c = false := by
    have all : ".eE+-".toList.all (!Text.isBlank ·) = true := by decide
    simpa using all
  have plain := forall_of_isDecimal (fun _ => Text.not_isBlank_of_isDecimalDigit) marks number
  exact of_dropMinus (.of_all (ne_nil_of_isDecimal number) plain)

theorem isLine_of_isBoolean (truth : isBoolean text = true) : IsLine text.toList := by
  simp only [isBoolean, Bool.or_eq_true, beq_iff_eq] at truth
  rcases truth with rfl | rfl <;> exact ⟨by decide, 'e', by decide, by decide⟩

end HostBindings.Literal
