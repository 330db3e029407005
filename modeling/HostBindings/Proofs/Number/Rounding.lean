import HostBindings.Number.Shortest
import Mathlib.Algebra.Order.Field.Power
import Mathlib.Data.Rat.Cast.Order
import Mathlib.Tactic.FieldSimp
import Mathlib.Tactic.Linarith
import Mathlib.Tactic.Positivity
import Mathlib.Tactic.Ring

/-!
# The numbers that round to a double

A positive double is an integer times a power of two, and the fractions that round to it form an
interval around it: half a unit of the last place to each side, but only a quarter below a power of
two, where the neighbours are twice as dense. Each end belongs to the interval if the mantissa is
even. Reading rounds every fraction in the interval to the double, and no digit count or exponent
keeps it from doing so.

## Main definitions

* `Magnitude.value` — the number that a magnitude is
* `Magnitude.Takes` — the fractions that round to a magnitude

## Main results

* `roundQuotient_eq` — rounding to the nearest integer
* `Magnitude.nearest?_eq_of_takes` — a fraction that rounds to a magnitude is read as it
* `Binary64.ofDecimal_of_takes` — so is a decimal
-/

namespace HostBindings

/-! ### Integers -/

/-- A quotient is rounded to the integer that it is at most half a unit away from, unless it is half
a unit away from it and the integer is odd. -/
theorem roundQuotient_eq {num den nearest : Nat} (positive : 0 < den)
    (below : 2 * nearest * den ≤ 2 * num + den) (above : 2 * num ≤ 2 * nearest * den + den)
    (ties : 2 * nearest * den = 2 * num + den ∨ 2 * num = 2 * nearest * den + den →
      nearest % 2 = 0) :
    roundQuotient num den = nearest := by
  have split : den * (num / den) + num % den = num := Nat.div_add_mod num den
  have small : num % den < den := Nat.mod_lt num positive
  unfold roundQuotient
  dsimp only
  generalize num / den = quotient, num % den = remainder at split small ⊢
  subst split
  -- the integer is the quotient or the next one
  have either : nearest = quotient ∨ nearest = quotient + 1 := by
    have least : quotient ≤ nearest := by
      by_contra less
      have : den * (nearest + 1) ≤ den * quotient := Nat.mul_le_mul_left den (by omega)
      linarith
    have most : nearest ≤ quotient + 1 := by
      by_contra more
      have : den * (quotient + 2) ≤ den * nearest := Nat.mul_le_mul_left den (by omega)
      linarith
    omega
  rcases either with rfl | rfl
  · have half : 2 * remainder ≤ den := by linarith
    rcases Nat.lt_or_ge (2 * remainder) den with less | tie
    · rw [if_pos less]
    · have even := ties (.inr (by linarith))
      rw [if_neg (by omega), if_neg (by omega)]
      omega
  · have half : den ≤ 2 * remainder := by linarith
    rcases Nat.lt_or_ge den (2 * remainder) with more | tie
    · rw [if_neg (by omega), if_pos more]
    · have even := ties (.inl (by linarith))
      rw [if_neg (by omega), if_neg (by omega)]
      omega

namespace Magnitude

variable {x : Magnitude} {num den : Nat} {exponent : Int} {v : ℚ}

/-- The number that a magnitude is. -/
def value (x : Magnitude) : ℚ := x.mantissa * 2 ^ x.exponent

/-- The fractions that round to a magnitude, in units of a quarter of the last place. -/
structure Takes (x : Magnitude) (v : ℚ) : Prop where
  /-- They are not below the lower end. -/
  lower : (x.quarters.1 : ℚ) * 2 ^ (x.exponent - 2) ≤ v
  /-- They are not above the upper end. -/
  upper : v ≤ (x.quarters.2.2 : ℚ) * 2 ^ (x.exponent - 2)
  /-- The ends belong to an even mantissa. -/
  ends : (x.quarters.1 : ℚ) * 2 ^ (x.exponent - 2) = v ∨
    v = (x.quarters.2.2 : ℚ) * 2 ^ (x.exponent - 2) → x.mantissa % 2 = 0

theorem two_zpow_pos (e : Int) : (0 : ℚ) < 2 ^ e := by positivity

/-- A fraction is divided by a power of two. -/
theorem scale_div (num : Nat) (positive : 0 < den) (exponent : Int) :
    0 < (scale num den exponent).2 ∧
      ((scale num den exponent).1 : ℚ) / (scale num den exponent).2 =
        num / den / 2 ^ exponent := by
  have nonzero : (den : ℚ) ≠ 0 := by positivity
  cases exponent with
  | ofNat e =>
    refine ⟨Nat.mul_pos positive (Nat.pow_pos (by decide)), ?_⟩
    simp only [scale, Int.ofNat_eq_natCast, zpow_natCast, Nat.pow_eq]
    push_cast
    field_simp
  | negSucc e =>
    refine ⟨positive, ?_⟩
    simp only [scale, zpow_negSucc, Nat.pow_eq]
    push_cast
    field_simp

/-- A positive fraction is between two powers of two, by the bits of its parts. -/
theorem two_zpow_log2 (numerator : 0 < num) (denominator : 0 < den) :
    (2 : ℚ) ^ ((num.log2 : Int) - den.log2 - 1) < num / den ∧
      (num / den : ℚ) < 2 ^ ((num.log2 : Int) - den.log2 + 1) := by
  have nonzero : (0 : ℚ) < den := by positivity
  have num_ge : (2 : ℚ) ^ (num.log2 : Int) ≤ num := by
    rw [zpow_natCast]
    exact_mod_cast Nat.log2_self_le numerator.ne'
  have num_lt : (num : ℚ) < 2 ^ ((num.log2 : Int) + 1) := by
    rw [← Nat.cast_succ, zpow_natCast]
    exact_mod_cast Nat.lt_log2_self
  have den_ge : (2 : ℚ) ^ (den.log2 : Int) ≤ den := by
    rw [zpow_natCast]
    exact_mod_cast Nat.log2_self_le denominator.ne'
  have den_lt : (den : ℚ) < 2 ^ ((den.log2 : Int) + 1) := by
    rw [← Nat.cast_succ, zpow_natCast]
    exact_mod_cast Nat.lt_log2_self
  -- each bound uses the bounds of the numerator and the denominator on opposite sides
  rw [lt_div_iff₀ nonzero, div_lt_iff₀ nonzero]
  constructor
  · calc (2 : ℚ) ^ ((num.log2 : Int) - den.log2 - 1) * den
        < 2 ^ ((num.log2 : Int) - den.log2 - 1) * 2 ^ ((den.log2 : Int) + 1) :=
          mul_lt_mul_of_pos_left den_lt (two_zpow_pos _)
      _ = 2 ^ (num.log2 : Int) := by
          rw [← zpow_add₀ two_ne_zero]
          congr 1
          omega
      _ ≤ num := num_ge
  · calc (num : ℚ) < 2 ^ ((num.log2 : Int) + 1) := num_lt
      _ = 2 ^ ((num.log2 : Int) - den.log2 + 1) * 2 ^ (den.log2 : Int) := by
          rw [← zpow_add₀ two_ne_zero]
          congr 1
          omega
      _ ≤ 2 ^ ((num.log2 : Int) - den.log2 + 1) * den :=
          mul_le_mul_of_nonneg_left den_ge (two_zpow_pos _).le

/-- A fraction that has 53 bits before the point once it is divided by a power of two. -/
def Fits (v : ℚ) (exponent : Int) : Prop :=
  (2 : ℚ) ^ (52 + exponent) ≤ v ∧ v < 2 ^ (53 + exponent)

/-- The exponent is settled by the fraction. -/
theorem Fits.unique {e f : Int} (first : Fits v e) (second : Fits v f) : e = f := by
  have less {e f : Int} (first : Fits v e) (second : Fits v f) : e ≤ f := by
    have := (zpow_lt_zpow_iff_right₀ one_lt_two).mp (first.1.trans_lt second.2)
    omega
  exact le_antisymm (less first second) (less second first)

/-- A fraction is divided by the power of two at which it fits, or by the least one. -/
theorem exponentFor_eq (numerator : 0 < num) (denominator : 0 < den) :
    ∃ fitted, Fits (num / den) fitted ∧ exponentFor num den = max fitted leastExponent := by
  obtain ⟨low, high⟩ := two_zpow_log2 numerator denominator
  unfold exponentFor
  generalize same : (num.log2 : Int) - den.log2 - 53 = estimate
  obtain ⟨positive, quotient⟩ := scale_div num denominator estimate
  dsimp only
  generalize scale num den estimate = scaled at positive quotient
  have whole : scaled.1 / scaled.2 < mantissaLimit ↔ (num / den : ℚ) < 2 ^ (53 + estimate) := by
    rw [Nat.div_lt_iff_lt_mul positive, zpow_add₀ two_ne_zero, ← div_lt_iff₀ (two_zpow_pos _),
      ← quotient, div_lt_iff₀ (by exact_mod_cast positive)]
    norm_num [mantissaLimit]
    exact_mod_cast Iff.rfl
  rw [show (num.log2 : Int) - den.log2 - 1 = 52 + estimate by omega] at low
  rw [show (num.log2 : Int) - den.log2 + 1 = 53 + (estimate + 1) by omega] at high
  -- the estimate is one too low exactly where the scaled quotient has more than 53 bits
  by_cases small : scaled.1 / scaled.2 < mantissaLimit
  · rw [if_pos small]
    exact ⟨estimate, ⟨low.le, whole.mp small⟩, rfl⟩
  · rw [if_neg small]
    refine ⟨estimate + 1, ⟨?_, high⟩, rfl⟩
    rw [show 52 + (estimate + 1) = 53 + estimate by omega]
    exact not_lt.mp fun less => small (whole.mpr less)

/-- Quarters of the last place, as integers once the fraction is scaled. -/
theorem quarters_le_iff {n d : Nat} (positive : 0 < d) (same : (n : ℚ) / d = v / 2 ^ exponent)
    (quarters : Nat) :
    ((quarters : ℚ) * 2 ^ (exponent - 2) ≤ v ↔ quarters * d ≤ 4 * n) ∧
      (v ≤ quarters * 2 ^ (exponent - 2) ↔ 4 * n ≤ quarters * d) := by
  have nonzero : (0 : ℚ) < d := by exact_mod_cast positive
  have unit : (2 : ℚ) ^ exponent = 4 * 2 ^ (exponent - 2) := by
    rw [zpow_sub₀ two_ne_zero]
    norm_num
    ring
  have scaled : v = n / d * (4 * 2 ^ (exponent - 2)) := by
    rw [← unit, same]
    field_simp
  have cancel (a b : ℚ) : a * 2 ^ (exponent - 2) ≤ b * (4 * 2 ^ (exponent - 2)) ↔ a ≤ b * 4 := by
    rw [← mul_assoc, mul_le_mul_iff_left₀ (two_zpow_pos _)]
  have cancel' (a b : ℚ) : b * (4 * 2 ^ (exponent - 2)) ≤ a * 2 ^ (exponent - 2) ↔ b * 4 ≤ a := by
    rw [← mul_assoc, mul_le_mul_iff_left₀ (two_zpow_pos _)]
  rw [scaled, cancel, cancel', div_mul_eq_mul_div, le_div_iff₀ nonzero, div_le_iff₀ nonzero]
  rw [mul_comm (n : ℚ)]
  exact ⟨by exact_mod_cast Iff.rfl, by exact_mod_cast Iff.rfl⟩

/-- The lower end is half a unit of the last place below the magnitude, or a quarter. -/
theorem quarters_fst (x : Magnitude) :
    x.quarters.1 = 4 * x.mantissa - 2 ∨
      x.quarters.1 = 4 * x.mantissa - 1 ∧ x.mantissa = fullMantissa := by
  unfold quarters
  dsimp only
  split
  next edge => exact .inr ⟨rfl, edge.1⟩
  next => exact .inl rfl

theorem ofParts?_eq (x : Magnitude) : ofParts? x.mantissa x.exponent = some x := by
  rw [ofParts?, dif_pos x.canonical]

/-- A magnitude is above the fractions that round to it only where it has all 53 bits. -/
theorem Takes.not_below (takes : x.Takes v) (below : v < 2 ^ (52 + x.exponent))
    (higher : leastExponent < x.exponent) :
    x.mantissa = fullMantissa ∧ ((2 ^ 54 - 1 : Nat) : ℚ) * 2 ^ (x.exponent - 2) ≤ v := by
  have full : fullMantissa ≤ x.mantissa := by
    obtain ⟨-, -, -, full | least⟩ := x.canonical
    · exact full
    · exact absurd least higher.ne'
  have power : (2 : ℚ) ^ (52 + x.exponent) = 2 ^ 54 * 2 ^ (x.exponent - 2) := by
    rw [← zpow_natCast, ← zpow_add₀ two_ne_zero]
    congr 1
    push_cast
    ring
  have less : x.quarters.1 < 2 ^ 54 := by
    have := takes.lower.trans_lt below
    rw [power, mul_lt_mul_iff_left₀ (two_zpow_pos _)] at this
    exact_mod_cast this
  -- of the mantissas of 53 bits only the least one has its lower end below the power of two
  have mantissa : x.mantissa = fullMantissa := by
    rcases x.quarters_fst with low | ⟨-, same⟩
    · have : fullMantissa = 2 ^ 52 := rfl
      omega
    · exact same
  refine ⟨mantissa, ?_⟩
  have end_ : x.quarters.1 = 2 ^ 54 - 1 := by
    have edge : x.quarters.1 = 4 * x.mantissa - 1 := if_pos ⟨mantissa, higher⟩
    rw [edge, mantissa]
    rfl
  rw [← end_]
  exact takes.lower

/-- Divided by its power of two, a fraction that rounds to a positive magnitude is nearest to the
mantissa. -/
theorem roundQuotient_of_takes {n d : Nat} (positive : 0 < x.mantissa) (denominator : 0 < d)
    (same : (n : ℚ) / d = v / 2 ^ x.exponent) (takes : x.Takes v) :
    roundQuotient n d = x.mantissa := by
  have quarters := quarters_le_iff denominator same
  have lower := (quarters _).1.mp takes.lower
  have upper := (quarters _).2.mp takes.upper
  have top : x.quarters.2.2 = 4 * x.mantissa + 2 := rfl
  have even : x.quarters.1 * d = 4 * n ∨ 4 * n = x.quarters.2.2 * d → x.mantissa % 2 = 0 := by
    rintro (low | high)
    · exact takes.ends (.inl (le_antisymm takes.lower ((quarters _).2.mpr low.ge)))
    · exact takes.ends (.inr (le_antisymm takes.upper ((quarters _).1.mpr high.ge)))
  rw [top] at upper even
  obtain ⟨m, mantissa⟩ : ∃ m, x.mantissa = m + 1 := ⟨x.mantissa - 1, by omega⟩
  -- at a power of two the interval reaches only half as far down, so there is no tie below
  rcases x.quarters_fst with low | ⟨low, -⟩
  all_goals
    rw [low] at lower even
    rw [mantissa] at lower upper even ⊢
  · rw [show 4 * (m + 1) - 2 = 4 * m + 2 by omega] at lower even
    refine roundQuotient_eq denominator (by linarith) (by linarith) fun ties => even ?_
    rcases ties with tie | tie
    · exact .inl (by linarith)
    · exact .inr (by linarith)
  · rw [show 4 * (m + 1) - 1 = 4 * m + 3 by omega] at lower even
    refine roundQuotient_eq denominator (by linarith) (by linarith) fun ties => even ?_
    rcases ties with tie | tie
    · exact absurd tie (by linarith)
    · exact .inr (by linarith)

/-- A power of two in units of the last place of a magnitude. -/
theorem two_zpow_exponent (n : Nat) (exponent : Int) :
    (2 : ℚ) ^ ((n : Int) + exponent) = 2 ^ (n + 2) * 2 ^ (exponent - 2) := by
  rw [← zpow_natCast, ← zpow_add₀ two_ne_zero]
  congr 1
  push_cast
  ring

/-- Divided by half its unit of the last place, a fraction that is a little below a power of two is
nearest to an integer of one bit more. -/
theorem roundQuotient_below {n d : Nat} (denominator : 0 < d)
    (same : (n : ℚ) / d = v / 2 ^ (exponent - 1)) (below : v < 2 ^ (52 + exponent))
    (edge : ((2 ^ 54 - 1 : Nat) : ℚ) * 2 ^ (exponent - 2) ≤ v) :
    roundQuotient n d = mantissaLimit := by
  have quarters := quarters_le_iff denominator same
  have half : (2 : ℚ) ^ (exponent - 2) = 2 * 2 ^ (exponent - 1 - 2) := by
    rw [show exponent - 2 = (exponent - 1 - 2) + 1 by ring, zpow_add_one₀ two_ne_zero]
    ring
  -- both ends of the interval, as multiples of a quarter of the halved unit
  have lower : (2 * (2 ^ 54 - 1)) * d ≤ 4 * n := by
    refine (quarters _).1.mp (le_trans (le_of_eq ?_) edge)
    rw [half]
    push_cast
    ring
  have upper : 4 * n ≤ 2 ^ 55 * d := by
    refine (quarters _).2.mp (below.le.trans (le_of_eq ?_))
    have := two_zpow_exponent 52 exponent
    push_cast at this
    rw [this, half]
    push_cast
    ring
  have limit : mantissaLimit = 2 ^ 53 := rfl
  rw [limit]
  exact roundQuotient_eq denominator (by omega) (by omega) fun _ => by norm_num

/-- A magnitude has at most 53 bits, and so have the fractions that round to it. -/
theorem Takes.lt (takes : x.Takes v) : v < 2 ^ (53 + x.exponent) := by
  refine takes.upper.trans_lt ?_
  have limit := x.canonical.1
  have power := two_zpow_exponent 53 x.exponent
  push_cast at power
  rw [power, mul_lt_mul_iff_left₀ (two_zpow_pos _)]
  have top : x.quarters.2.2 = 4 * x.mantissa + 2 := rfl
  have : mantissaLimit = 2 ^ 53 := rfl
  exact_mod_cast (show x.quarters.2.2 < 2 ^ 55 by omega)

/-- A fraction that rounds to a positive magnitude is read as it. -/
theorem nearest?_eq_of_takes (positive : 0 < x.mantissa) (numerator : 0 < num)
    (denominator : 0 < den) (takes : x.Takes (num / den)) : nearest? num den = some x := by
  obtain ⟨fitted, fits, same⟩ := exponentFor_eq numerator denominator
  obtain ⟨limit, least, -, -⟩ := x.canonical
  unfold nearest?
  rw [same]
  dsimp only
  by_cases inner : x.exponent = leastExponent ∨ (2 : ℚ) ^ (52 + x.exponent) ≤ num / den
  · -- the exponent is that of the magnitude
    have exponent : max fitted leastExponent = x.exponent := by
      rcases inner with bottom | above
      · have := (zpow_lt_zpow_iff_right₀ one_lt_two).mp (fits.1.trans_lt takes.lt)
        omega
      · rw [fits.unique ⟨above, takes.lt⟩]
        omega
    obtain ⟨some, scaled⟩ := scale_div num denominator x.exponent
    rw [exponent, roundQuotient_of_takes positive some scaled takes, if_neg (by omega), ofParts?_eq]
  · -- the fraction is below a power of two, at which one bit is lost
    obtain ⟨higher, below⟩ := not_or.mp inner
    rw [not_le] at below
    replace higher : leastExponent < x.exponent := lt_of_le_of_ne least (Ne.symm higher)
    obtain ⟨mantissa, edge⟩ := takes.not_below below higher
    have fits' : Fits (num / den) (x.exponent - 1) := by
      constructor
      · refine le_trans ?_ edge
        have power := two_zpow_exponent 51 x.exponent
        push_cast at power
        rw [show 52 + (x.exponent - 1) = 51 + x.exponent by ring, power,
          mul_le_mul_iff_left₀ (two_zpow_pos _)]
        norm_num
      · rwa [show 53 + (x.exponent - 1) = 52 + x.exponent by ring]
    have exponent : max fitted leastExponent = x.exponent - 1 := by
      rw [fits.unique fits']
      omega
    obtain ⟨some, scaled⟩ := scale_div num denominator (x.exponent - 1)
    rw [exponent, roundQuotient_below some scaled below edge, if_pos rfl, sub_add_cancel,
      ← mantissa, ofParts?_eq]

end Magnitude

namespace Binary64

variable {x : Magnitude}

/-- The digits of a positive integer say between which powers of ten it is. -/
theorem ten_pow_digitCount {n : Nat} (positive : 0 < n) :
    10 ^ (digitCount n - 1) ≤ n ∧ n < 10 ^ digitCount n ∧ 0 < digitCount n := by
  have some : 0 < digitCount n := Nat.length_toDigits_pos
  refine ⟨?_, (Nat.length_toDigits_le_iff (by decide) some).mp le_rfl, some⟩
  by_contra less
  rcases Nat.eq_zero_or_pos (digitCount n - 1) with single | more
  · rw [single] at less
    omega
  · have := (Nat.length_toDigits_le_iff (by decide) more).mpr (not_le.mp less)
    have : digitCount n ≤ digitCount n - 1 := this
    omega

/-- A decimal is between two powers of ten, by the count of its digits. -/
theorem ten_zpow_order {digits : Nat} (some : 0 < digits) (exponent : Int) :
    (10 : ℚ) ^ (exponent + digitCount digits - 1) ≤ digits * 10 ^ exponent ∧
      (digits : ℚ) * 10 ^ exponent < 10 ^ (exponent + digitCount digits) := by
  obtain ⟨least, most, count⟩ := ten_pow_digitCount some
  have ten : (0 : ℚ) < 10 ^ exponent := by positivity
  constructor
  · rw [show exponent + (digitCount digits : Int) - 1 =
        ((digitCount digits - 1 : Nat) : Int) + exponent
      by omega, zpow_add₀ (by norm_num), zpow_natCast, mul_le_mul_iff_left₀ ten]
    exact_mod_cast least
  · rw [add_comm exponent, zpow_add₀ (by norm_num), zpow_natCast, mul_lt_mul_iff_left₀ ten]
    exact_mod_cast most

/-- The decimals that round to a positive magnitude are neither too small nor too large to be
read. -/
theorem order_of_takes (positive : 0 < x.mantissa) {digits : Nat} {exponent : Int}
    (takes : x.Takes (digits * 10 ^ exponent)) (some : 0 < digits) :
    -330 ≤ exponent + digitCount digits ∧ exponent + digitCount digits ≤ 330 := by
  obtain ⟨least, most⟩ := ten_zpow_order some exponent
  obtain ⟨-, bottom, top, -⟩ := x.canonical
  -- powers of ten are compared with the powers of two that bound all magnitudes
  have ge : (1 : ℚ) < 10 := by norm_num
  constructor
  · by_contra small
    have two : (2 : ℚ) ≤ x.quarters.1 := by
      have : 2 ≤ x.quarters.1 := by
        rcases x.quarters_fst with low | ⟨low, -⟩ <;> omega
      exact_mod_cast this
    have above : (2 : ℚ) ^ (-1075 : Int) ≤ digits * 10 ^ exponent := by
      refine le_trans ?_ takes.lower
      rw [show (-1075 : Int) = 1 + -1076 by norm_num, zpow_one_add₀ two_ne_zero]
      refine mul_le_mul two (zpow_le_zpow_right₀ one_le_two ?_) (by positivity) (by positivity)
      unfold leastExponent at bottom
      omega
    have below : (10 : ℚ) ^ (exponent + digitCount digits) ≤ 10 ^ (-331 : Int) :=
      zpow_le_zpow_right₀ ge.le (by omega)
    have apart : (10 : ℚ) ^ (-331 : Int) ≤ 2 ^ (-1075 : Int) := by
      have : 2 ^ 1075 ≤ 10 ^ 331 := by decide +kernel
      rw [zpow_neg, zpow_neg]
      refine inv_anti₀ (by positivity) ?_
      exact_mod_cast this
    exact absurd (above.trans_lt (most.trans_le below)) (not_lt.mpr apart)
  · by_contra large
    have power : (2 : ℚ) ^ (53 + x.exponent) ≤ 2 ^ (1024 : Int) :=
      zpow_le_zpow_right₀ one_le_two (by unfold greatestExponent at top; omega)
    have above : (10 : ℚ) ^ (330 : Int) ≤ 10 ^ (exponent + digitCount digits - 1) :=
      zpow_le_zpow_right₀ ge.le (by omega)
    have apart : (2 : ℚ) ^ (1024 : Int) ≤ 10 ^ (330 : Int) := by
      have : 2 ^ 1024 ≤ 10 ^ 330 := by decide +kernel
      exact_mod_cast this
    exact absurd ((above.trans least).trans_lt (takes.lt.trans_le power)) (not_lt.mpr apart)

/-- A decimal that rounds to a positive magnitude is read as it. -/
theorem ofDecimal_of_takes (positive : 0 < x.mantissa) (negative : Bool) {digits : Nat}
    {exponent : Int} (takes : x.Takes (digits * 10 ^ exponent)) (some : 0 < digits) :
    ofDecimal negative digits exponent = .finite negative x := by
  obtain ⟨least, most⟩ := order_of_takes positive takes some
  unfold ofDecimal
  dsimp only
  rw [if_neg some.ne', if_neg (by omega), if_neg (by omega)]
  cases exponent with
  | ofNat e =>
    have nearest : Magnitude.nearest? (digits * Nat.pow 10 e) 1 = .some x := by
      refine Magnitude.nearest?_eq_of_takes positive
        (Nat.mul_pos some (Nat.pow_pos (by decide))) one_pos ?_
      simpa [Nat.pow_eq] using takes
    simp only [nearest]
  | negSucc e =>
    have nearest : Magnitude.nearest? digits (Nat.pow 10 (e + 1)) = .some x := by
      refine Magnitude.nearest?_eq_of_takes positive some (Nat.pow_pos (by decide)) ?_
      simpa [Nat.pow_eq, zpow_negSucc, div_eq_mul_inv] using takes
    simp only [nearest]

end Binary64

end HostBindings
