import HostBindings.Literal
import Mathlib.Data.List.TakeWhile

/-!
# Number literals

The decimal literals of the generated language, by their grammar: integers are digits without a zero
in front, and other numbers have a point or an exponent, where zeros in front do no harm. Digits are
the ten of ASCII. The tests that choose the base type of an enumeration read them more widely: a
text can end with a line feed, can have the digits of other scripts, and can be an integer with
zeros in front. For all other texts the tests and the grammar agree.

## Main definitions

* `Literal.IsDigits`, `Literal.IsNatural`, `Literal.IsExponent`, `Literal.IsNumber` — the grammar
* `Literal.Signed` — a literal with or without a minus sign
* `Literal.IsOrdinary` — texts that are read the same way by the tests

## Main results

* `Literal.isInteger_iff`, `Literal.isFloat_iff` — the tests of ordinary texts
* `Literal.IsOrdinary.of_number` — the texts of the grammar are ordinary
-/

namespace HostBindings.Literal

variable {text digits : List Char}

/-! ### The grammar -/

/-- Some digits. -/
structure IsDigits (text : List Char) : Prop where
  /-- There is a digit. -/
  filled : text ≠ []
  /-- All are digits. -/
  digits : ∀ c ∈ text, c.isDigit = true

/-- A decimal integer literal: digits that do not begin with zero, or zero itself. -/
structure IsNatural (text : List Char) : Prop where
  /-- The text is made of digits. -/
  digits : IsDigits text
  /-- Zero only stands alone in front. -/
  zero : text.head? = some '0' → text = ['0']

/-- An exponent. -/
inductive IsExponent : List Char → Prop where
  /-- A mark, perhaps a sign, and digits. -/
  | intro {mark : Char} {sign digits : List Char} : mark = 'e' ∨ mark = 'E' →
      sign = [] ∨ sign = ['+'] ∨ sign = ['-'] → IsDigits digits →
      IsExponent (mark :: (sign ++ digits))

/-- A decimal literal of an integer or of another number. -/
inductive IsNumber : List Char → Prop where
  /-- An integer. -/
  | whole {digits : List Char} : IsNatural digits → IsNumber digits
  /-- Digits, and an exponent. -/
  | power {digits exponent : List Char} : IsDigits digits → IsExponent exponent →
      IsNumber (digits ++ exponent)
  /-- A point with digits before or behind it, and perhaps an exponent. -/
  | point {before after exponent : List Char} : (∀ c ∈ before ++ after, c.isDigit = true) →
      before ++ after ≠ [] → exponent = [] ∨ IsExponent exponent →
      IsNumber (before ++ '.' :: (after ++ exponent))

/-- A literal with or without a minus sign. -/
def Signed (Form : List Char → Prop) (text : List Char) : Prop :=
  Form text ∨ ∃ rest, text = '-' :: rest ∧ Form rest

/-- Texts that are read alike by the grammar and by the tests: without a line feed at the end, with
no digits but those of ASCII, and without zeros in front of an integer. -/
structure IsOrdinary (text : List Char) : Prop where
  /-- No line feed is dropped. -/
  ended : text.getLast? ≠ some '\n'
  /-- The digits are those of ASCII. -/
  ascii : ∀ c ∈ text, Text.isDecimalDigit c = true → c.isDigit = true
  /-- An integer has no zeros in front. -/
  zeros : ∀ rest, text = rest ∨ text = '-' :: rest → IsDigits rest → IsNatural rest

/-! ### Digits -/

theorem isDecimalDigit_of_isDigit {c : Char} (digit : c.isDigit = true) :
    Text.isDecimalDigit c = true := by
  have all : ∀ n < 58, 48 ≤ n → Text.decimalRanges.contains n = true := by decide
  simp only [Char.isDigit, Bool.and_eq_true, decide_eq_true_eq] at digit
  exact all c.toNat (Nat.lt_succ_of_le digit.2) digit.1

theorem isDigits_iff (ascii : ∀ c ∈ text, Text.isDecimalDigit c = true → c.isDigit = true) :
    isDigits text = true ↔ IsDigits text := by
  simp only [isDigits, Bool.and_eq_true, Bool.not_eq_true', List.isEmpty_eq_false_iff,
    List.all_eq_true]
  exact ⟨fun ⟨filled, all⟩ => ⟨filled, fun c member => ascii c member (all c member)⟩,
    fun all => ⟨all.filled, fun c member => isDecimalDigit_of_isDigit (all.digits c member)⟩⟩

theorem IsDigits.isDigits (all : IsDigits text) : isDigits text = true :=
  (isDigits_iff fun c member _ => all.digits c member).mpr all

/-- Digits are read to their end. -/
theorem afterDigits_append {rest : List Char} (all : ∀ c ∈ digits, c.isDigit = true)
    (stop : ∀ c, rest.head? = some c → Text.isDecimalDigit c = false) :
    afterDigits (digits ++ rest) = rest := by
  rw [afterDigits, List.dropWhile_append_of_pos fun c member =>
    isDecimalDigit_of_isDigit (all c member)]
  cases rest with
  | nil => rfl
  | cons c more => rw [List.dropWhile_cons_of_neg (by simp [stop c rfl])]

/-- A text is its digits and what is behind them. -/
theorem exists_digits (ascii : ∀ c ∈ text, Text.isDecimalDigit c = true → c.isDigit = true) :
    ∃ digits, text = digits ++ afterDigits text ∧ ∀ c ∈ digits, c.isDigit = true := by
  refine ⟨text.takeWhile Text.isDecimalDigit, List.takeWhile_append_dropWhile.symm,
    fun c member => ?_⟩
  exact ascii c ((List.takeWhile_prefix _).subset member) (List.mem_takeWhile_imp member)

/-! ### Exponents -/

theorem IsDigits.ne_cons (all : IsDigits text) {c : Char} (other : c.isDigit = false)
    (rest : List Char) : text ≠ c :: rest := by
  rintro rfl
  rw [all.digits c List.mem_cons_self] at other
  cases other

theorem IsExponent.isExponent (exponent : IsExponent text) : isExponent text = true := by
  obtain @⟨mark, sign, digits, marked, signed, all⟩ := exponent
  have mark : (mark == 'e' || mark == 'E') = true := by simpa using marked
  rcases signed with rfl | rfl | rfl <;> unfold Literal.isExponent <;>
    simp only [mark, Bool.true_and, List.nil_append, List.cons_append]
  · -- without a sign the digits are what is left
    split
    next => exact absurd rfl (all.ne_cons (c := '+') rfl _)
    next => exact absurd rfl (all.ne_cons (c := '-') rfl _)
    next => exact all.isDigits
  · exact all.isDigits
  · exact all.isDigits

/-- The test of exponents is that of the grammar. -/
theorem isExponent_iff (ascii : ∀ c ∈ text, Text.isDecimalDigit c = true → c.isDigit = true) :
    isExponent text = true ↔ text = [] ∨ IsExponent text := by
  refine ⟨fun test => ?_, ?_⟩
  · cases text with
    | nil => exact .inl rfl
    | cons mark rest =>
      have later : ∀ c ∈ rest, Text.isDecimalDigit c = true → c.isDigit = true :=
        fun c member => ascii c (List.mem_cons_of_mem _ member)
      simp only [isExponent, Bool.and_eq_true, Bool.or_eq_true, beq_iff_eq] at test
      obtain ⟨marked, test⟩ := test
      right
      split at test
      · have all := (isDigits_iff fun c member => later c (List.mem_cons_of_mem _ member)).mp test
        exact .intro marked (.inr (.inl rfl)) all
      · have all := (isDigits_iff fun c member => later c (List.mem_cons_of_mem _ member)).mp test
        exact .intro marked (.inr (.inr rfl)) all
      · exact .intro marked (.inl rfl) ((isDigits_iff later).mp test)
  · rintro (rfl | exponent)
    · rfl
    · exact exponent.isExponent

theorem IsExponent.exists_mark (exponent : IsExponent text) :
    ∃ mark rest, text = mark :: rest ∧ (mark = 'e' ∨ mark = 'E') := by
  obtain ⟨marked, -, -⟩ := exponent
  exact ⟨_, _, rfl, marked⟩

/-- An exponent does not begin with a digit. -/
theorem stops_of_exponent (exponent : text = [] ∨ IsExponent text) :
    ∀ c, text.head? = some c → Text.isDecimalDigit c = false := by
  rintro c first
  rcases exponent with rfl | exponent
  · cases first
  · obtain ⟨mark, rest, rfl, marked⟩ := exponent.exists_mark
    cases first
    rcases marked with rfl | rfl <;> decide

/-! ### Numbers -/

/-- A text of the grammar passes the test. -/
theorem IsNumber.isDecimal (number : IsNumber text) : isDecimal text = true := by
  cases number with
  | whole natural =>
    have none : afterDigits (text ++ []) = [] :=
      afterDigits_append natural.digits.digits (by simp)
    rw [List.append_nil] at none
    rw [Literal.isDecimal, none]
    simpa [isExponent] using List.length_pos_iff.mpr natural.digits.filled
  | @power digits exponent all power =>
    obtain ⟨mark, rest, rfl, marked⟩ := power.exists_mark
    have behind := afterDigits_append all.digits (stops_of_exponent (.inr power))
    have other : mark ≠ '.' := by rcases marked with rfl | rfl <;> decide
    rw [Literal.isDecimal, behind]
    split
    next found => exact absurd (List.cons.inj found).1 other
    next =>
      rw [power.isExponent]
      simpa using List.length_pos_iff.mpr all.filled
  | @point before after exponent all some power =>
    simp only [List.mem_append] at all
    have front : afterDigits (before ++ '.' :: (after ++ exponent)) = '.' :: (after ++ exponent) :=
      afterDigits_append (fun c member => all c (.inl member)) (by simp; decide)
    have back : afterDigits (after ++ exponent) = exponent :=
      afterDigits_append (fun c member => all c (.inr member)) (stops_of_exponent power)
    have last : isExponent exponent = true := by
      rcases power with rfl | power
      · rfl
      · exact power.isExponent
    rw [Literal.isDecimal, front]
    simp only [back, last, Bool.and_true]
    -- the digits are before the point or behind it
    cases before with
    | nil =>
      rw [List.nil_append] at some
      simpa using List.length_pos_iff.mpr some
    | cons c rest =>
      have other : c ≠ '.' := by
        rintro rfl
        cases all '.' (.inl List.mem_cons_self)
      simp [other]

/-- The test of decimal numbers is that of the grammar. -/
theorem isDecimal_iff (ascii : ∀ c ∈ text, Text.isDecimalDigit c = true → c.isDigit = true)
    (zeros : IsDigits text → IsNatural text) : isDecimal text = true ↔ IsNumber text := by
  refine ⟨fun test => ?_, IsNumber.isDecimal⟩
  -- along the test: leading digits, a point with digits behind, an exponent
  obtain ⟨before, whole, front⟩ := exists_digits ascii
  unfold isDecimal at test
  split at test
  next fraction found =>
    rw [found] at whole
    have later : ∀ c ∈ fraction, Text.isDecimalDigit c = true → c.isDigit = true :=
      fun c member => ascii c (by rw [whole]; simp [member])
    obtain ⟨after, rest, back⟩ := exists_digits later
    simp only [Bool.and_eq_true, Bool.or_eq_true, bne_iff_ne, decide_eq_true_eq] at test
    obtain ⟨some, last⟩ := test
    have power := (isExponent_iff fun c member => later c (by rw [rest]; simp [member])).mp last
    rw [whole, rest]
    refine .point (by simpa [or_imp, forall_and] using ⟨front, back⟩) (fun none => ?_) power
    obtain ⟨rfl, rfl⟩ := List.append_eq_nil_iff.mp none
    rcases some with head | shorter
    · exact head (by rw [whole]; rfl)
    · rw [List.nil_append] at rest
      rw [← rest] at shorter
      exact Nat.lt_irrefl _ shorter
  next =>
    simp only [Bool.and_eq_true, decide_eq_true_eq] at test
    obtain ⟨shorter, last⟩ := test
    have some : before ≠ [] := by
      rintro rfl
      rw [List.nil_append] at whole
      rw [← whole] at shorter
      exact Nat.lt_irrefl _ shorter
    rcases (isExponent_iff fun c member => ascii c (by rw [whole]; simp [member])).mp last with
      none | power
    · rw [none, List.append_nil] at whole
      exact .whole (zeros (whole ▸ ⟨some, front⟩))
    · rw [whole]
      exact .power ⟨some, front⟩ power

/-! ### Literals -/

theorem dropMinus_cases (text : List Char) :
    text = dropMinus text ∨ text = '-' :: dropMinus text := by
  unfold dropMinus
  split
  · exact .inr rfl
  · exact .inl rfl

/-- A form without a sign is that of what is behind the sign. -/
theorem signed_iff {Form : List Char → Prop} (unsigned : ∀ rest, ¬ Form ('-' :: rest)) :
    Signed Form text ↔ Form (dropMinus text) := by
  unfold dropMinus
  split
  next rest => simp [Signed, unsigned]
  next other => simpa [Signed] using fun rest same => absurd same (other rest)

namespace IsOrdinary

variable (ordinary : IsOrdinary text)

include ordinary

theorem dropLineEnd_eq : dropLineEnd text = text := if_neg ordinary.ended

theorem ascii_dropMinus :
    ∀ c ∈ dropMinus text, Text.isDecimalDigit c = true → c.isDigit = true := by
  intro c member
  refine ordinary.ascii c ?_
  rcases dropMinus_cases text with same | same
  · rwa [same]
  · rw [same]
    exact List.mem_cons_of_mem _ member

theorem natural_dropMinus (all : IsDigits (dropMinus text)) : IsNatural (dropMinus text) :=
  ordinary.zeros _ (dropMinus_cases text) all

end IsOrdinary

/-- The test of integers is that of the grammar. -/
theorem isInteger_iff {text : String} (ordinary : IsOrdinary text.toList) :
    isInteger text = true ↔ Signed IsNatural text.toList := by
  rw [isInteger, ordinary.dropLineEnd_eq, isDigits_iff ordinary.ascii_dropMinus,
    signed_iff fun rest natural => natural.digits.ne_cons rfl rest rfl]
  exact ⟨ordinary.natural_dropMinus, fun natural => natural.digits⟩

/-- A number does not begin with a sign. -/
theorem not_isNumber_minus (rest : List Char) : ¬ IsNumber ('-' :: rest) := by
  intro number
  have test := number.isDecimal
  have none : afterDigits ('-' :: rest) = '-' :: rest := List.dropWhile_cons_of_neg (by decide)
  rw [isDecimal, none] at test
  simp at test

/-- The test of numbers is that of the grammar. -/
theorem isFloat_iff {text : String} (ordinary : IsOrdinary text.toList) :
    isFloat text = true ↔ Signed IsNumber text.toList := by
  rw [isFloat, ordinary.dropLineEnd_eq, signed_iff not_isNumber_minus]
  exact isDecimal_iff ordinary.ascii_dropMinus ordinary.natural_dropMinus

/-! ### Characters -/

/-- The characters of a number besides its digits. -/
def numberMarks : List Char := ['.', 'e', 'E', '+', '-']

theorem IsExponent.chars (exponent : IsExponent text) :
    ∀ c ∈ text, c.isDigit = true ∨ c ∈ numberMarks := by
  obtain ⟨marked, signed, all⟩ := exponent
  intro c member
  simp only [List.mem_cons, List.mem_append] at member
  rcases member with rfl | member | member
  · rcases marked with rfl | rfl <;> exact .inr (by decide)
  · rcases signed with rfl | rfl | rfl
    · cases member
    · exact .inr (List.mem_singleton.mp member ▸ by decide)
    · exact .inr (List.mem_singleton.mp member ▸ by decide)
  · exact .inl (all.digits c member)

theorem IsNumber.chars (number : IsNumber text) :
    ∀ c ∈ text, c.isDigit = true ∨ c ∈ numberMarks := by
  intro c member
  cases number with
  | whole natural => exact .inl (natural.digits.digits c member)
  | power all power =>
    rcases List.mem_append.mp member with member | member
    · exact .inl (all.digits c member)
    · exact power.chars c member
  | @point before after exponent all _ power =>
    simp only [List.mem_append, List.mem_cons] at member all
    rcases member with member | rfl | member | member
    · exact .inl (all c (.inl member))
    · exact .inr (by decide)
    · exact .inl (all c (.inr member))
    · rcases power with rfl | power
      · cases member
      · exact power.chars c member

theorem Signed.chars (number : Signed IsNumber text) :
    ∀ c ∈ text, c.isDigit = true ∨ c ∈ numberMarks := by
  rcases number with number | ⟨rest, rfl, number⟩
  · exact number.chars
  · intro c member
    rcases List.mem_cons.mp member with rfl | member
    · exact .inr (by decide)
    · exact number.chars c member

/-- A number is written on one line. -/
theorem Signed.single (number : Signed IsNumber text) : '\n' ∉ text := fun member =>
  absurd (number.chars _ member) (by decide)

/-- Only a whole number is all digits. -/
theorem IsNumber.natural (number : IsNumber text) (all : IsDigits text) : IsNatural text := by
  cases number with
  | whole natural => exact natural
  | power _ power =>
    obtain ⟨mark, rest, rfl, marked⟩ := power.exists_mark
    have digit := all.digits mark (by simp)
    rcases marked with rfl | rfl <;> cases digit
  | point => exact absurd (all.digits '.' (by simp)) (by decide)

/-- A number is read alike by the grammar and by the tests. -/
theorem IsOrdinary.of_number (number : Signed IsNumber text) : IsOrdinary text where
  ended last := number.single (List.mem_of_getLast? last)
  ascii c member digit := by
    have none : ∀ c ∈ numberMarks, Text.isDecimalDigit c = false := by
      simpa using (by decide : numberMarks.all (!Text.isDecimalDigit ·) = true)
    rcases number.chars c member with ascii | mark
    · exact ascii
    · rw [none c mark] at digit
      cases digit
  zeros rest parts all := by
    rcases number with number | ⟨behind, rfl, number⟩
    · rcases parts with rfl | rfl
      · exact number.natural all
      · exact absurd number (not_isNumber_minus rest)
    · rcases parts with rfl | parts
      · exact absurd rfl (all.ne_cons (by decide) behind)
      · cases parts
        exact number.natural all

end HostBindings.Literal
