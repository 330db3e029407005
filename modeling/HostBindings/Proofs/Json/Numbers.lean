import HostBindings.Json.Reader
import HostBindings.Json.Writer
import HostBindings.Proofs.Number.Decimals

/-!
# Numbers that are written and read

The text of a number is read as the number: an integer digit by digit, any other number by its
shortest decimal, in whichever notation that is written. What follows must not go on with the
number.

## Main definitions

* `Json.IsBasic` — the characters of numbers, among others
* `Json.EndsNumber` — what may follow a number
* `Json.ReadsAs` — a text that is read as a decimal

## Main results

* `Json.number?_int`, `Json.number?_finite` — the text of a number is read as the number
* `Json.basic_int`, `Json.basic_finite` — which characters are in it
-/

namespace HostBindings.Json

open Binary64 (digitCount decimalText significantDigits)

variable {digits whole decimals rest after : List Char}

/-- A visible character of seven bits, or the space. -/
def IsBasic (c : Char) : Prop := 32 ≤ c.toNat ∧ c.toNat < 127

instance : DecidablePred IsBasic := fun _ => inferInstanceAs (Decidable (_ ∧ _))

/-- Over the characters of a text it can be decided, which over all characters takes too long. -/
theorem basic_of_all {text : List Char} (all : text.all (IsBasic ·) = true) :
    ∀ c ∈ text, IsBasic c := by simpa using all

/-! ### Runs of digits -/

/-- A run of digits. -/
def IsDigits (digits : List Char) : Prop := ∀ d ∈ digits, isAsciiDigit d = true

/-- What may follow a run of digits. -/
def EndsDigits (rest : List Char) : Prop := ∀ c ∈ rest.head?, isAsciiDigit c = false

theorem isBasic_of_isAsciiDigit {d : Char} (digit : isAsciiDigit d = true) : IsBasic d := by
  simp only [isAsciiDigit, Bool.and_eq_true, decide_eq_true_eq, Char.le_def,
    UInt32.le_iff_toNat_le] at digit
  exact ⟨(by decide : 32 ≤ 48).trans digit.1, digit.2.trans_lt (by decide)⟩

theorem IsDigits.basic (all : IsDigits digits) : ∀ d ∈ digits, IsBasic d :=
  fun d member => isBasic_of_isAsciiDigit (all d member)

theorem isAsciiDigit_eq (c : Char) : isAsciiDigit c = c.isDigit := by
  simp [isAsciiDigit, Char.isDigit, Char.le_def]

theorem IsDigits.append {more : List Char} (first : IsDigits digits) (second : IsDigits more) :
    IsDigits (digits ++ more) :=
  fun d member => (List.mem_append.mp member).elim (first d) (second d)

theorem isDigits_zeros (count : Nat) : IsDigits (List.replicate count '0') := by
  intro d member
  rw [List.eq_of_mem_replicate member]
  rfl

theorem isDigits_toDigits (n : Nat) : IsDigits (Nat.toDigits 10 n) := fun _ member =>
  isAsciiDigit_eq _ ▸ Nat.isDigit_of_mem_toDigits (by decide) le_rfl member

/-- A run of digits is taken as a whole. -/
theorem spanDigits_append (all : IsDigits digits) (ends : EndsDigits rest) :
    spanDigits (digits ++ rest) = (digits, rest) := by
  have none : rest.takeWhile isAsciiDigit = [] ∧ rest.dropWhile isAsciiDigit = rest := by
    cases rest with
    | nil => exact ⟨rfl, rfl⟩
    | cons c more =>
      have other : isAsciiDigit c = false := ends c rfl
      simp [other]
  rw [spanDigits, List.takeWhile_append_of_pos all, List.dropWhile_append_of_pos all, none.1,
    none.2, List.append_nil]

theorem foldl_digits (digits : List Char) (start : Nat) :
    digits.foldl (fun value d => value * 10 + (d.toNat - 48)) start =
      start * 10 ^ digits.length + digitsValue digits := by
  unfold digitsValue
  induction digits generalizing start with
  | nil => simp
  | cons d rest ih =>
    rw [List.foldl_cons, List.foldl_cons, ih, ih (0 * 10 + _), List.length_cons, pow_succ]
    ring

/-- Digits behind others. -/
theorem digitsValue_append (digits more : List Char) :
    digitsValue (digits ++ more) = digitsValue digits * 10 ^ more.length + digitsValue more := by
  conv_lhs => rw [digitsValue, List.foldl_append]
  exact foldl_digits more _

theorem digitsValue_zeros (count : Nat) : digitsValue (List.replicate count '0') = 0 := by
  induction count with
  | zero => rfl
  | succ count ih =>
    rw [List.replicate_succ', digitsValue_append, ih, Nat.zero_mul, Nat.zero_add]
    rfl

theorem digitsValue_toDigits (n : Nat) : digitsValue (Nat.toDigits 10 n) = n := by
  have same : digitsValue (Nat.toDigits 10 n) = Nat.ofDigitChars 10 (Nat.toDigits 10 n) 0 := by
    unfold digitsValue Nat.ofDigitChars
    congr 1
    funext value d
    rw [mul_comm]
    rfl
  rw [same, Nat.ofDigitChars_ten_toDigits]

/-- The digits of a positive integer do not begin with a zero. -/
theorem exists_toDigits_eq_cons {n : Nat} (positive : 0 < n) :
    ∃ d more, Nat.toDigits 10 n = d :: more ∧ d ≠ '0' := by
  induction n using Nat.strongRecOn with
  | _ n ih =>
    rcases Nat.lt_or_ge n 10 with small | large
    · have nonzero : ∀ n < 10, 0 < n → n.digitChar ≠ '0' := by decide
      exact ⟨n.digitChar, [], Nat.toDigits_of_lt_base small, nonzero n small positive⟩
    · obtain ⟨d, more, same, nonzero⟩ := ih (n / 10) (by omega) (by omega)
      exact ⟨d, more ++ [(n % 10).digitChar],
        by rw [Nat.toDigits_of_base_le (by decide) large, same]; rfl, nonzero⟩

/-! ### The parts of a number -/

/-- Digits that can be the integer part of a number. -/
structure IsWhole (whole : List Char) : Prop where
  /-- They are digits. -/
  digits : IsDigits whole
  /-- There is a zero only, or they begin with another digit. -/
  lead : whole = ['0'] ∨ ∃ d more, whole = d :: more ∧ d ≠ '0'

theorem isWhole_toDigits (n : Nat) : IsWhole (Nat.toDigits 10 n) := by
  refine ⟨isDigits_toDigits n, ?_⟩
  rcases Nat.eq_zero_or_pos n with rfl | positive
  · exact .inl (Nat.toDigits_zero 10)
  · exact .inr (exists_toDigits_eq_cons positive)

theorem integerPart?_append (part : IsWhole whole) (ends : EndsDigits rest) :
    integerPart? (whole ++ rest) = some (whole, rest) := by
  obtain ⟨all, rfl | ⟨d, more, rfl, nonzero⟩⟩ := part
  · rfl
  · obtain ⟨digit, others⟩ := List.forall_mem_cons.mp all
    rw [List.cons_append, integerPart?, if_neg nonzero, if_pos digit, spanDigits_append others ends]

theorem fractionPart_append (some : decimals ≠ []) (all : IsDigits decimals)
    (ends : EndsDigits rest) :
    fractionPart ('.' :: (decimals ++ rest)) = (.some decimals, rest) := by
  simp [fractionPart, spanDigits_append all ends, some]

theorem fractionPart_none (other : ∀ c ∈ rest.head?, c ≠ '.') :
    fractionPart rest = (none, rest) := by
  unfold fractionPart
  split
  · exact absurd rfl (other _ rfl)
  · rfl

theorem exponentPart_none (other : ∀ c ∈ rest.head?, c ≠ 'e' ∧ c ≠ 'E') :
    exponentPart rest = (none, rest) := by
  cases rest with
  | nil => rfl
  | cons c more =>
    obtain ⟨small, capital⟩ := other c rfl
    simp [exponentPart, small, capital]

theorem exponentPart_append (minus : Bool) (some : digits ≠ []) (all : IsDigits digits)
    (ends : EndsDigits rest) :
    exponentPart ('e' :: (if minus then '-' else '+') :: (digits ++ rest)) =
      (.some (if minus then -(digitsValue digits : Int) else digitsValue digits), rest) := by
  cases minus <;> simp [exponentPart, spanDigits_append all ends, some]

/-- The sign of a number. -/
def sign (negative : Bool) : List Char := if negative then ['-'] else []

/-- A number behind its sign, by its parts. -/
theorem number?_parts (negative : Bool) {fraction : Option (List Char)} {exponent : Option Int}
    {afterFraction : List Char} (part : IsWhole whole) (ends : EndsDigits rest)
    (fractions : fractionPart rest = (fraction, afterFraction))
    (exponents : exponentPart afterFraction = (exponent, after)) :
    number? (sign negative ++ (whole ++ rest)) = some
      (if fraction.isNone && exponent.isNone then
        if digitLimit < whole.length then .error (.longInteger whole.length)
        else .ok (.int (if negative then -(digitsValue whole : Int) else digitsValue whole))
      else .ok (.float (.ofDecimal negative (digitsValue (whole ++ fraction.getD []))
        (exponent.getD 0 - (fraction.getD []).length))), after) := by
  have unsigned : ∀ more, whole ++ rest ≠ '-' :: more := by
    obtain ⟨all, rfl | ⟨d, more, rfl, -⟩⟩ := part
    · simp
    · intro other same
      obtain rfl := (List.cons.inj same).1
      exact absurd (all _ List.mem_cons_self) (by decide)
  have whole? := integerPart?_append part ends
  generalize whole ++ rest = text at unsigned whole?
  unfold number?
  cases negative with
  | true =>
    simp only [sign, if_true, List.cons_append, List.nil_append, whole?, fractions, exponents]
  | false =>
    simp only [sign, Bool.false_eq_true, if_false, List.nil_append, whole?, fractions, exponents]

/-! ### What may follow -/

/-- What may follow a number: nothing that goes on with it. -/
def EndsNumber (rest : List Char) : Prop :=
  ∀ c ∈ rest.head?, isAsciiDigit c = false ∧ c ≠ '.' ∧ c ≠ 'e' ∧ c ≠ 'E'

theorem EndsNumber.endsDigits (ends : EndsNumber rest) : EndsDigits rest :=
  fun c first => (ends c first).1

theorem EndsNumber.fractionPart (ends : EndsNumber rest) : fractionPart rest = (none, rest) :=
  fractionPart_none fun c first => (ends c first).2.1

theorem EndsNumber.exponentPart (ends : EndsNumber rest) : exponentPart rest = (none, rest) :=
  exponentPart_none fun c first => (ends c first).2.2

/-! ### Integers -/

/-- The text of an integer: its sign and its digits. -/
theorem toList_toString_int (value : Int) :
    (toString value).toList = sign (value < 0) ++ Nat.toDigits 10 value.natAbs := by
  change value.repr.toList = _
  rw [Int.repr_eq_if]
  split
  next positive =>
    rw [Nat.toList_repr, sign, if_neg (by simpa using positive)]
    congr 1
    omega
  next negative =>
    rw [String.toList_append, Nat.toList_repr, sign, if_pos (by simpa using negative)]
    congr 2
    omega

theorem basic_sign (negative : Bool) : ∀ c ∈ sign negative, IsBasic c := by
  cases negative <;> exact basic_of_all (by decide)

theorem basic_int (value : Int) : ∀ c ∈ (toString value).toList, IsBasic c := by
  rw [toList_toString_int]
  exact List.forall_mem_append.mpr ⟨basic_sign _, (isDigits_toDigits _).basic⟩

/-- The text of an integer is read as the integer, unless it has too many digits. -/
theorem number?_int (value : Int) (ends : EndsNumber rest)
    (short : digitCount value.natAbs ≤ digitLimit) :
    number? ((toString value).toList ++ rest) = some (.ok (.int value), rest) := by
  rw [toList_toString_int, List.append_assoc,
    number?_parts _ (isWhole_toDigits _) ends.endsDigits ends.fractionPart ends.exponentPart]
  have fits : ¬ digitLimit < (Nat.toDigits 10 value.natAbs).length := not_lt.mpr short
  simp only [Option.isNone_none, Bool.and_self, if_true, if_neg fits, digitsValue_toDigits,
    decide_eq_true_eq]
  congr 4
  split <;> omega

/-- The integer part of a number has digits only. -/
theorem isDigits_of_integerPart? {text : List Char}
    (part : integerPart? text = some (whole, after)) : whole ≠ [] ∧ IsDigits whole := by
  cases text with
  | nil => cases part
  | cons c rest =>
    rw [integerPart?] at part
    by_cases zero : c = '0'
    · rw [if_pos zero] at part
      cases part
      exact ⟨List.cons_ne_nil _ _, isDigits_zeros 1⟩
    rw [if_neg zero] at part
    by_cases digit : isAsciiDigit c = true
    · rw [if_pos digit] at part
      cases part
      refine ⟨List.cons_ne_nil _ _, List.forall_mem_cons.mpr ⟨digit, fun d member => ?_⟩⟩
      exact List.all_eq_true.mp List.all_takeWhile d member
    · rw [if_neg digit] at part
      cases part

theorem digitsValue_lt (all : IsDigits digits) : digitsValue digits < 10 ^ digits.length := by
  induction digits using List.reverseRecOn with
  | nil => decide
  | append_singleton upper d ih =>
    obtain ⟨before, last⟩ := List.forall_mem_append.mp all
    have less := ih before
    have digit : d.toNat - 48 < 10 := by
      have bounds := last d (List.mem_singleton_self d)
      simp only [isAsciiDigit, Bool.and_eq_true, decide_eq_true_eq, Char.le_def,
        UInt32.le_iff_toNat_le] at bounds
      have most : d.toNat ≤ 57 := bounds.2
      omega
    rw [digitsValue_append, List.length_append, List.length_singleton, Nat.pow_succ]
    have value : digitsValue [d] = d.toNat - 48 := by simp [digitsValue]
    omega

/-- A power of ten has one digit more than zeros. -/
theorem lt_digitCount_ten_pow (zeros : Nat) :
    zeros < Binary64.digitCount (10 ^ zeros : Int).natAbs := by
  rw [Int.natAbs_pow]
  have positive : 0 < 10 ^ zeros := Nat.pow_pos (by decide)
  obtain ⟨-, less, -⟩ := Binary64.ten_pow_digitCount positive
  exact (Nat.pow_lt_pow_iff_right (by decide)).mp less

/-- A number has no more digits than it is spelt with. -/
theorem digitCount_digitsValue_le (some : digits ≠ []) (all : IsDigits digits) :
    digitCount (digitsValue digits) ≤ digits.length :=
  (Nat.length_toDigits_le_iff (by decide) (List.length_pos_of_ne_nil some)).mpr
    (digitsValue_lt all)

/-! ### Decimals -/

/-- The digits of a positive integer are its significant digits and zeros. -/
theorem exists_significant {n : Nat} (positive : 0 < n) :
    ∃ zeros, Nat.toDigits 10 n = (significantDigits n).toList ++ List.replicate zeros '0' ∧
      digitCount n = (significantDigits n).toList.length + zeros ∧
      n = digitsValue (significantDigits n).toList * 10 ^ zeros ∧
      ∃ d more, (significantDigits n).toList = d :: more ∧ d ≠ '0' := by
  -- zeros at the end are cut from the reversed digits, and are put back here
  have split : Nat.toDigits 10 n = (significantDigits n).toList ++
      ((Nat.toDigits 10 n).reverse.takeWhile (· == '0')).reverse := by
    rw [significantDigits, String.toList_ofList, ← List.reverse_append,
      List.takeWhile_append_dropWhile, List.reverse_reverse]
  obtain ⟨zeros, tail⟩ : ∃ zeros,
      ((Nat.toDigits 10 n).reverse.takeWhile (· == '0')).reverse = List.replicate zeros '0' := by
    refine ⟨_, List.eq_replicate_of_mem fun c member => ?_⟩
    have zero := List.all_eq_true.mp List.all_takeWhile c (List.mem_reverse.mp member)
    simpa using zero
  rw [tail] at split
  have value : n = digitsValue (significantDigits n).toList * 10 ^ zeros := by
    have := digitsValue_toDigits n
    rw [split, digitsValue_append, digitsValue_zeros, List.length_replicate, Nat.add_zero] at this
    exact this.symm
  refine ⟨zeros, split, ?_, value, ?_⟩
  · have lengths := congrArg List.length split
    rwa [List.length_append, List.length_replicate] at lengths
  · obtain ⟨d, more, same, nonzero⟩ := exists_toDigits_eq_cons positive
    rw [split] at same
    cases shown : (significantDigits n).toList with
    | nil =>
      rw [shown, show digitsValue [] = 0 from rfl, Nat.zero_mul] at value
      omega
    | cons first others =>
      rw [shown] at same
      exact ⟨first, others, rfl, (List.cons.inj same).1 ▸ nonzero⟩

theorem isDigits_significant {n : Nat} (positive : 0 < n) :
    IsDigits (significantDigits n).toList := by
  obtain ⟨zeros, split, -⟩ := exists_significant positive
  exact fun d member => isDigits_toDigits n d (split ▸ List.mem_append_left _ member)

/-- A text is a number without sign that is read as a decimal of a certain value. -/
structure ReadsAs (text : List Char) (value : ℚ) : Prop where
  /-- The characters of the text. -/
  basic : ∀ c ∈ text, IsBasic c
  /-- The text is read behind either sign. -/
  read : ∀ (negative : Bool) (rest : List Char), EndsNumber rest →
    ∃ (digits : Nat) (exponent : Int), (digits : ℚ) * 10 ^ exponent = value ∧
      number? (sign negative ++ (text ++ rest)) =
        some (.ok (.float (.ofDecimal negative digits exponent)), rest)

/-- Digits with a point among them. -/
theorem readsAs_positional (part : IsWhole whole) (some : decimals ≠ []) (all : IsDigits decimals) :
    ReadsAs (whole ++ '.' :: decimals)
      (digitsValue (whole ++ decimals) * 10 ^ (-(decimals.length : Int))) := by
  have basic : ∀ c ∈ whole ++ '.' :: decimals, IsBasic c :=
    List.forall_mem_append.mpr ⟨part.digits.basic, List.forall_mem_cons.mpr ⟨by decide, all.basic⟩⟩
  refine ⟨basic, fun negative rest ends => ?_⟩
  refine ⟨_, _, rfl, ?_⟩
  have point : EndsDigits ('.' :: (decimals ++ rest)) := by
    rintro _ ⟨⟩
    rfl
  rw [List.append_assoc, List.cons_append, number?_parts negative part point
    (fractionPart_append some all ends.endsDigits) ends.exponentPart]
  simp

/-- One digit, with or without others behind a point, and an exponent. -/
theorem readsAs_scientific {d : Char} (digit : isAsciiDigit d = true) (all : IsDigits decimals)
    (minus : Bool) (some : digits ≠ []) (exponents : IsDigits digits) :
    ReadsAs (d :: ((if decimals = [] then [] else '.' :: decimals) ++
        'e' :: (if minus then '-' else '+') :: digits))
      (digitsValue (d :: decimals) *
        10 ^ ((if minus then -(digitsValue digits : Int) else digitsValue digits) -
          decimals.length)) := by
  have basic : ∀ c ∈ d :: ((if decimals = [] then [] else '.' :: decimals) ++
      'e' :: (if minus then '-' else '+') :: digits), IsBasic c := by
    have exponent : IsBasic (if minus then '-' else '+') := by
      cases minus <;> decide
    have point : ∀ c ∈ if decimals = [] then [] else '.' :: decimals, IsBasic c := by
      split
      · simp
      · exact List.forall_mem_cons.mpr ⟨by decide, all.basic⟩
    exact List.forall_mem_cons.mpr ⟨isBasic_of_isAsciiDigit digit,
      List.forall_mem_append.mpr ⟨point, List.forall_mem_cons.mpr ⟨by decide,
        List.forall_mem_cons.mpr ⟨exponent, exponents.basic⟩⟩⟩⟩
  refine ⟨basic, fun negative rest ends => ?_⟩
  refine ⟨_, _, rfl, ?_⟩
  have part : IsWhole [d] := by
    refine ⟨by simpa [IsDigits] using digit, ?_⟩
    by_cases zero : d = '0'
    · exact .inl (by rw [zero])
    · exact .inr ⟨d, [], rfl, zero⟩
  have exponent := exponentPart_append minus some exponents ends.endsDigits
  -- a letter or a point ends the digits before it, whichever comes first
  have letter : EndsDigits ('e' :: (if minus then '-' else '+') :: (digits ++ rest)) := by
    rintro _ ⟨⟩
    rfl
  by_cases none : decimals = []
  · subst none
    have fraction : fractionPart ('e' :: (if minus then '-' else '+') :: (digits ++ rest)) =
        (Option.none, 'e' :: (if minus then '-' else '+') :: (digits ++ rest)) :=
      fractionPart_none (by rintro _ ⟨⟩; decide)
    have parts := number?_parts negative part letter fraction exponent
    simpa using parts
  · have point : EndsDigits ('.' :: (decimals ++
        'e' :: (if minus then '-' else '+') :: (digits ++ rest))) := by
      rintro _ ⟨⟩
      rfl
    have parts := number?_parts negative part point
      (fractionPart_append none all letter) exponent
    simpa [none] using parts

/-- A decimal by its significant digits. -/
theorem value_significant {n : Nat} (positive : 0 < n) (exponent : Int) :
    (n : ℚ) * 10 ^ exponent = digitsValue (significantDigits n).toList *
      10 ^ (exponent + digitCount n - (significantDigits n).toList.length) := by
  obtain ⟨zeros, -, count, value, -⟩ := exists_significant positive
  rw [show exponent + (digitCount n : Int) - (significantDigits n).toList.length =
      (zeros : Int) + exponent by rw [count]; push_cast; ring,
    zpow_add₀ (by norm_num), zpow_natCast, ← mul_assoc]
  congr 1
  exact_mod_cast value

/-- The exponent of a written number, digit by digit. -/
theorem toList_exponentText (exponent : Int) :
    ∃ digits, digits ≠ [] ∧ IsDigits digits ∧ digitsValue digits = exponent.natAbs ∧
      (Binary64.exponentText exponent).toList =
        'e' :: (if decide (exponent < 0) then '-' else '+') :: digits := by
  -- an exponent of one digit is filled up to two
  let padding : List Char := if (toString exponent.natAbs).length < 2 then ['0'] else []
  refine ⟨padding ++ Nat.toDigits 10 exponent.natAbs, ?_, ?_, ?_, ?_⟩
  · simp
  · refine IsDigits.append ?_ (isDigits_toDigits _)
    simp only [padding]
    split
    · exact isDigits_zeros 1
    · exact isDigits_zeros 0
  · rw [digitsValue_append, digitsValue_toDigits]
    have none : digitsValue padding = 0 := by
      simp only [padding]
      split <;> rfl
    rw [none, Nat.zero_mul, Nat.zero_add]
  · simp only [Binary64.exponentText, String.toList_append, Nat.toString_eq_repr, Nat.toList_repr,
      padding]
    by_cases minus : exponent < 0
    all_goals
      simp only [minus, if_true, if_false, decide_true, decide_false]
      split <;> rfl

section Notations

variable {shown more : List Char} {d : Char}

/-- Positional notation, all digits behind the point. -/
theorem readsAs_behind {point : Int} (all : IsDigits shown) (some : shown ≠ [])
    (small : point ≤ 0) :
    ReadsAs ('0' :: '.' :: (List.replicate (-point).toNat '0' ++ shown))
      (digitsValue shown * 10 ^ (point - shown.length)) := by
  have zero : IsWhole ['0'] := ⟨isDigits_zeros 1, .inl rfl⟩
  have reads := readsAs_positional zero
    (List.append_ne_nil_of_right_ne_nil (List.replicate (-point).toNat '0') some)
    ((isDigits_zeros _).append all)
  have value : digitsValue (['0'] ++ (List.replicate (-point).toNat '0' ++ shown)) =
      digitsValue shown := by
    rw [← List.append_assoc, digitsValue_append, ← List.replicate_one,
      List.replicate_append_replicate, digitsValue_zeros, Nat.zero_mul, Nat.zero_add]
  rw [value, List.length_append, List.length_replicate] at reads
  rw [show point - (shown.length : Int) = -(((-point).toNat + shown.length : Nat) : Int) by
    push_cast; omega]
  exact reads

/-- Positional notation, all digits before the point. -/
theorem readsAs_before (point : Int) (all : IsDigits shown) (lead : shown = d :: more)
    (nonzero : d ≠ '0') (fits : (shown.length : Int) ≤ point) :
    ReadsAs (shown ++ List.replicate (point.toNat - shown.length) '0' ++ '.' :: ['0'])
      (digitsValue shown * 10 ^ (point - shown.length)) := by
  have part : IsWhole (shown ++ List.replicate (point.toNat - shown.length) '0') := by
    refine ⟨all.append (isDigits_zeros _), .inr ⟨d, ?_⟩⟩
    rw [lead]
    exact ⟨_, rfl, nonzero⟩
  have reads := readsAs_positional part (List.cons_ne_nil '0' []) (isDigits_zeros 1)
  rw [digitsValue_append, digitsValue_append, digitsValue_zeros, List.length_replicate,
    show digitsValue ['0'] = 0 from rfl] at reads
  rw [show point - (shown.length : Int) = ((point.toNat - shown.length : Nat) : Int) by omega,
    zpow_natCast]
  push_cast at reads
  simpa using reads

/-- Positional notation, digits before and behind the point. -/
theorem readsAs_around (point : Int) (all : IsDigits shown) (lead : shown = d :: more)
    (nonzero : d ≠ '0') (positive : 0 < point) (longer : point < shown.length) :
    ReadsAs (shown.take point.toNat ++ '.' :: shown.drop point.toNat)
      (digitsValue shown * 10 ^ (point - shown.length)) := by
  have part : IsWhole (shown.take point.toNat) := by
    refine ⟨fun c member => all c (List.mem_of_mem_take member), .inr ⟨d, ?_⟩⟩
    obtain ⟨n, same⟩ : ∃ n, point.toNat = n + 1 := ⟨point.toNat - 1, by omega⟩
    rw [lead, same]
    exact ⟨_, List.take_succ_cons, nonzero⟩
  have some : shown.drop point.toNat ≠ [] := by
    rw [Ne, List.drop_eq_nil_iff]
    omega
  have reads := readsAs_positional part some fun c member => all c (List.mem_of_mem_drop member)
  rw [List.take_append_drop, List.length_drop] at reads
  rwa [show point - (shown.length : Int) = -((shown.length - point.toNat : Nat) : Int) by omega]

/-- Scientific notation, one digit before the point. -/
theorem readsAs_exponent {shown : String} (point : Int) (all : IsDigits shown.toList)
    (lead : shown.toList = d :: more) :
    ReadsAs
      ((shown.take 1).toString ++
        (if (shown.drop 1).toString.isEmpty then "" else "." ++ (shown.drop 1).toString) ++
        Binary64.exponentText (point - 1)).toList
      (digitsValue shown.toList * 10 ^ (point - shown.toList.length)) := by
  obtain ⟨digits, other, exponents, value, text⟩ := toList_exponentText (point - 1)
  obtain ⟨digit, decimals⟩ := List.forall_mem_cons.mp (lead ▸ all)
  have reads := readsAs_scientific digit decimals (decide (point - 1 < 0)) other exponents
  have exponent : (if decide (point - 1 < 0) = true then -(digitsValue digits : Int)
      else digitsValue digits) = point - 1 := by
    rw [value]
    simp only [decide_eq_true_eq]
    split <;> omega
  have tail : (shown.drop 1).copy = String.ofList more := by
    rw [← String.toList_inj, String.toList_copy_drop, lead, String.toList_ofList]
    rfl
  -- without more digits there is no point
  have behind : (if (String.ofList more).isEmpty then "" else "." ++ String.ofList more).toList =
      if more = [] then [] else '.' :: more := by
    by_cases none : more = []
    · simp [none]
    · simp [none]
  rw [exponent] at reads
  rw [String.toList_append, String.toList_append, text]
  simp only [String.Slice.toString, String.toList_copy_take, tail]
  rw [behind, lead, List.length_cons, Nat.cast_succ, show point - ((more.length : Int) + 1) =
    point - 1 - more.length by ring]
  exact reads

end Notations

/-- A decimal is read from its text, in either notation. -/
theorem readsAs_decimalText {n : Nat} (positive : 0 < n) (exponent : Int) :
    ReadsAs (decimalText n exponent).toList (n * 10 ^ exponent) := by
  have all := isDigits_significant positive
  obtain ⟨_, -, -, -, d, more, lead, nonzero⟩ := exists_significant positive
  rw [value_significant positive]
  unfold decimalText
  dsimp only
  have length : (significantDigits n).length = (significantDigits n).toList.length :=
    String.length_toList.symm
  rw [length]
  generalize significantDigits n = shown at all lead ⊢
  -- only the digits and where the point is among them matter from here on
  generalize exponent + (digitCount n : Int) = point
  have some : shown.toList ≠ [] := by simp [lead]
  split
  next =>
    split
    next small =>
      rw [String.toList_append, String.toList_append, Binary64.zeros, String.toList_ofList,
        String.toList_ofList]
      exact readsAs_behind all some small
    next large =>
      split
      next fits =>
        rw [String.toList_append, String.toList_append, Binary64.zeros, String.toList_ofList]
        exact readsAs_before point all lead nonzero (by omega)
      next longer =>
        rw [String.toList_append, String.toList_append, List.append_assoc]
        simp only [String.Slice.toString, String.toList_copy_take, String.toList_copy_drop]
        exact readsAs_around point all lead nonzero (by omega) (by omega)
  next => exact readsAs_exponent point all lead

/-! ### Doubles -/

/-- The text of a double without its sign. -/
def unsignedText (magnitude : Magnitude) : String :=
  if magnitude.mantissa = 0 then "0.0"
  else decimalText magnitude.shortest.1 magnitude.shortest.2

theorem toList_text_finite (negative : Bool) (magnitude : Magnitude) :
    (Binary64.finite negative magnitude).text.toList =
      sign negative ++ (unsignedText magnitude).toList := by
  cases negative with
  | true => exact String.toList_append
  | false => rfl

theorem basic_finite (negative : Bool) (magnitude : Magnitude) :
    ∀ c ∈ (Binary64.finite negative magnitude).text.toList, IsBasic c := by
  rw [toList_text_finite]
  refine List.forall_mem_append.mpr ⟨basic_sign negative, ?_⟩
  rw [unsignedText]
  split
  next => exact basic_of_all (by decide)
  next nonzero =>
    have positive : 0 < magnitude.mantissa := Nat.pos_of_ne_zero nonzero
    exact (readsAs_decimalText ((Magnitude.takes_shortest positive).digits_pos positive) _).basic

/-- Zero has one magnitude. -/
theorem eq_zero_of_mantissa {magnitude : Magnitude} (zero : magnitude.mantissa = 0) :
    magnitude = .zero := by
  obtain ⟨mantissa, exponent, canonical⟩ := magnitude
  obtain rfl : mantissa = 0 := zero
  obtain ⟨-, -, -, full | least⟩ := canonical
  · exact absurd full (by decide)
  · subst least
    rfl

/-- The text of a finite double is read as the double. -/
theorem number?_finite {rest : List Char} (negative : Bool) (magnitude : Magnitude)
    (ends : EndsNumber rest) :
    number? ((Binary64.finite negative magnitude).text.toList ++ rest) =
      some (.ok (.float (.finite negative magnitude)), rest) := by
  rw [toList_text_finite, List.append_assoc]
  by_cases zero : magnitude.mantissa = 0
  · have point : EndsDigits ('.' :: (['0'] ++ rest)) := by
      rintro _ ⟨⟩
      rfl
    have whole : IsWhole ['0'] := ⟨isDigits_zeros 1, .inl rfl⟩
    have parts := number?_parts negative whole point
      (fractionPart_append (List.cons_ne_nil '0' []) (isDigits_zeros 1) ends.endsDigits)
      ends.exponentPart
    rw [eq_zero_of_mantissa zero]
    exact parts
  · have positive : 0 < magnitude.mantissa := Nat.pos_of_ne_zero zero
    have takes := Magnitude.takes_shortest positive
    obtain ⟨digits, exponent, value, read⟩ :=
      (readsAs_decimalText (takes.digits_pos positive) magnitude.shortest.2).read negative rest ends
    rw [← value] at takes
    rw [unsignedText, if_neg zero, read,
      Binary64.ofDecimal_of_takes positive negative takes (takes.digits_pos positive)]

end HostBindings.Json
