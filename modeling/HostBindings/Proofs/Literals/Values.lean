import HostBindings.Declaration
import HostBindings.Proofs.Layout.Literals
import HostBindings.Proofs.Literals.Interpreted
import HostBindings.Proofs.Literals.Numbers

/-!
# The values of enumerations

A member of an enumeration is written as a literal of the base type. A text stands between quotation
marks; a number or a truth value stands as it is, and has to be a literal of the generated language.
The tests that look for one that is not go by the grammar, for all texts that they read like it.

## Main definitions

* `Literal.Fits` — texts that are literals of a primitive type
* `Literal.Writes` — how a text is written as a literal of a primitive type
* `Literal.IsRead` — texts that are read as the grammar has it

## Main results

* `Literal.Writes.quote`, `Literal.Writes.of_fits` — how texts can be written
* `Literal.test_iff`, `Literal.literalType?_primitive` — the tests
-/

namespace HostBindings.Literal

/-! ### Literals of a primitive type -/

/-- A text is a literal of a primitive type. Any text can be quoted. -/
def Fits : Primitive → String → Prop
  | .text, _ => True
  | .integer, text => Signed IsNatural text.toList
  | .float, text => Signed IsNumber text.toList
  | .boolean, text => text = "true" ∨ text = "false"

/-- A text is written as a literal of a primitive type, on one line. -/
inductive Writes : Primitive → String → String → Prop where
  /-- Between quotation marks it denotes the text. -/
  | quoted {text literal : String} : unquote? literal.toList = some (bytesOf text) →
      '\n' ∉ literal.toList → Writes .text text literal
  /-- A number or a truth value stands as it is. -/
  | plain {base : Primitive} {text : String} : base ≠ .text → Fits base text →
      '\n' ∉ text.toList → Writes base text text

/-- A text that is tested as a number is read as the grammar has it. -/
def IsRead (base : Primitive) (text : String) : Prop :=
  base = .integer ∨ base = .float → IsOrdinary text.toList

theorem Writes.quote (text : String) : Writes .text text (Text.quote text) :=
  .quoted (unquote?_quote text) (Layout.lineFeed_not_mem_quote text)

theorem Signed.number {text : List Char} (natural : Signed IsNatural text) :
    Signed IsNumber text :=
  natural.imp .whole fun ⟨rest, parts, natural⟩ => ⟨rest, parts, .whole natural⟩

/-- What fits a type is on one line. -/
theorem Writes.of_fits {base : Primitive} {text : String} (other : base ≠ .text)
    (fits : Fits base text) : Writes base text text := by
  refine .plain other fits ?_
  cases base with
  | text => exact absurd rfl other
  | integer => exact fits.number.single
  | float => exact fits.single
  | boolean => rcases fits with rfl | rfl <;> decide

/-- What fits a type is read as the grammar has it. -/
theorem IsRead.of_fits {base : Primitive} {text : String} (fits : Fits base text) :
    IsRead base text := by
  rintro (rfl | rfl)
  · exact .of_number fits.number
  · exact .of_number fits

/-! ### Tests -/

/-- The test of the literals of a primitive type; none for texts. -/
def test? : Primitive → Option (String → Bool)
  | .text => none
  | .integer => some isInteger
  | .float => some isFloat
  | .boolean => some isBoolean

theorem test?_eq_none_iff {base : Primitive} : test? base = none ↔ base = .text := by
  cases base <;> simp [test?]

theorem test_iff {base : Primitive} {test : String → Bool} (tested : test? base = some test)
    {text : String} (read : IsRead base text) : test text = true ↔ Fits base text := by
  cases base with
  | text => cases tested
  | integer =>
    cases tested
    exact isInteger_iff (read (.inl rfl))
  | float =>
    cases tested
    exact isFloat_iff (read (.inr rfl))
  | boolean =>
    cases tested
    simp [isBoolean, Fits]

/-- By default the literals of a primitive type are tested by its test. -/
theorem literalType?_primitive (base : Primitive) (literals : List String) :
    Generator.literalType? {} (TypeSettings.primitive {} base) literals =
      (test? base).map literals.all := by
  cases base <;> rfl

end HostBindings.Literal
