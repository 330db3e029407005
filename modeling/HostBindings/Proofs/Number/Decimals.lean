import HostBindings.Proofs.Number.Rounding

/-!
# Decimals of a double

The search for the shortest decimal of a magnitude tries decimals that round to it, and ends with
the exact one, which does so too. So whatever it finds is read as the magnitude.

## Main results

* `Magnitude.takes_of_covers` — what the search tries
* `Magnitude.takes_shortest` — what it finds
-/

namespace HostBindings

namespace Magnitude

variable {x : Magnitude} {digits : Nat} {exponent : Int}

/-- A power with the negative part of its exponent on the other side. -/
theorem zpow_toNat {base : ℚ} (nonzero : base ≠ 0) (k : Int) :
    base ^ k.toNat = base ^ k * base ^ (-k).toNat := by
  rw [← zpow_natCast, ← zpow_natCast, ← zpow_add₀ nonzero]
  congr 1
  omega

/-- Quarters of the last place and a decimal are compared as integers. -/
theorem compare_scaled (x : Magnitude) (quarters digits : Nat) (exponent : Int) :
    let unit := Nat.pow 2 (x.exponent - 2).toNat * Nat.pow 10 (-exponent).toNat
    let grid := Nat.pow 10 exponent.toNat * Nat.pow 2 (2 - x.exponent).toNat
    (quarters * unit ≤ digits * grid ↔
        (quarters : ℚ) * 2 ^ (x.exponent - 2) ≤ digits * 10 ^ exponent) ∧
      (digits * grid ≤ quarters * unit ↔
        (digits : ℚ) * 10 ^ exponent ≤ quarters * 2 ^ (x.exponent - 2)) := by
  intro unit grid
  obtain ⟨factor, positive, scaled, gridded⟩ : ∃ factor : ℚ, 0 < factor ∧
      (unit : ℚ) = 2 ^ (x.exponent - 2) * factor ∧ (grid : ℚ) = 10 ^ exponent * factor := by
    refine ⟨2 ^ (2 - x.exponent).toNat * 10 ^ (-exponent).toNat, by positivity, ?_, ?_⟩
    · simp only [unit, Nat.pow_eq]
      push_cast
      rw [zpow_toNat two_ne_zero (x.exponent - 2), neg_sub]
      ring
    · simp only [grid, Nat.pow_eq]
      push_cast
      rw [zpow_toNat (by norm_num) exponent]
      ring
  clear_value unit grid
  rw [← Nat.cast_le (α := ℚ), ← Nat.cast_le (α := ℚ), Nat.cast_mul, Nat.cast_mul, scaled, gridded,
    ← mul_assoc, ← mul_assoc, mul_le_mul_iff_left₀ positive, mul_le_mul_iff_left₀ positive]
  exact ⟨Iff.rfl, Iff.rfl⟩

/-- What the search tries rounds to the magnitude. -/
theorem takes_of_covers (covers : x.covers digits exponent = true) :
    x.Takes (digits * 10 ^ exponent) := by
  have compare (quarters : Nat) := x.compare_scaled quarters digits exponent
  unfold Magnitude.covers at covers
  dsimp only at covers
  split at covers
  next even =>
    rw [Bool.and_eq_true, decide_eq_true_eq, decide_eq_true_eq] at covers
    exact ⟨(compare _).1.mp covers.1, (compare _).2.mp covers.2, fun _ => even⟩
  next =>
    rw [Bool.and_eq_true, decide_eq_true_eq, decide_eq_true_eq] at covers
    refine ⟨(compare _).1.mp covers.1.le, (compare _).2.mp covers.2.le, ?_⟩
    rintro (end_ | end_)
    · exact absurd ((compare _).2.mpr end_.ge) (not_le.mpr covers.1)
    · exact absurd ((compare _).1.mpr end_.ge) (not_le.mpr covers.2)

/-- A decimal that is found on a grid was tried. -/
theorem takes_of_onGrid? (found : x.onGrid? exponent = some digits) :
    x.Takes (digits * 10 ^ exponent) := by
  refine takes_of_covers ?_
  unfold onGrid? at found
  dsimp only at found
  -- which of the two neighbours is taken is decided by the bounds alone, not by what they are
  generalize x.quarters.2.1 * (Nat.pow 2 (x.exponent - 2).toNat * Nat.pow 10 (-exponent).toNat) /
    (Nat.pow 10 exponent.toNat * Nat.pow 2 (2 - x.exponent).toNat) = below at found
  split at found
  next lower upper =>
    split at found
    · exact Option.some.inj found ▸ lower
    · split at found
      · exact Option.some.inj found ▸ upper
      · rcases Nat.mod_two_eq_zero_or_one below with even | odd
        · rw [even, Nat.add_zero] at found
          exact Option.some.inj found ▸ lower
        · rw [odd] at found
          exact Option.some.inj found ▸ upper
  next lower _ => exact Option.some.inj found ▸ lower
  next upper => exact Option.some.inj found ▸ upper
  next => cases found

/-- A positive magnitude rounds to itself. -/
theorem takes_value (positive : 0 < x.mantissa) : x.Takes x.value := by
  -- in quarters of its last place, the magnitude is strictly inside of its interval
  have same : x.value = ((4 * x.mantissa : Nat) : ℚ) * 2 ^ (x.exponent - 2) := by
    rw [value, zpow_sub₀ two_ne_zero]
    push_cast
    ring
  have below : x.quarters.1 < 4 * x.mantissa := by
    rcases x.quarters_fst with low | ⟨low, -⟩ <;> omega
  have above : 4 * x.mantissa < x.quarters.2.2 := by
    have top : x.quarters.2.2 = 4 * x.mantissa + 2 := rfl
    omega
  have lower : (x.quarters.1 : ℚ) * 2 ^ (x.exponent - 2) < x.value := by
    rw [same, mul_lt_mul_iff_left₀ (two_zpow_pos _)]
    exact_mod_cast below
  have upper : x.value < (x.quarters.2.2 : ℚ) * 2 ^ (x.exponent - 2) := by
    rw [same, mul_lt_mul_iff_left₀ (two_zpow_pos _)]
    exact_mod_cast above
  refine ⟨lower.le, upper.le, ?_⟩
  rintro (end_ | end_)
  · exact absurd end_ lower.ne
  · exact absurd end_ upper.ne

/-- The exact decimal is the magnitude. -/
theorem exactDecimal_eq (x : Magnitude) :
    (x.exactDecimal.1 : ℚ) * 10 ^ x.exactDecimal.2 = x.value := by
  obtain ⟨mantissa, exponent, canonical⟩ := x
  cases exponent with
  | ofNat e => simp [exactDecimal, value, Nat.pow_eq]
  | negSucc e =>
    have ten : (10 : ℚ) ^ (e + 1) = 2 ^ (e + 1) * 5 ^ (e + 1) := by
      rw [← mul_pow]
      norm_num
    simp only [exactDecimal, value, Nat.pow_eq, zpow_negSucc, ten]
    push_cast
    field_simp

/-- The shortest decimal of a positive magnitude rounds to it. -/
theorem takes_shortest (positive : 0 < x.mantissa) :
    x.Takes (x.shortest.1 * 10 ^ x.shortest.2) := by
  unfold shortest
  dsimp only
  cases found : ((List.range 17).map fun (n : Nat) => x.leadingExponent - (n : Int)).findSome?
      fun exponent => (x.onGrid? exponent).map (·, exponent) with
  | none =>
    rw [Option.getD_none, exactDecimal_eq]
    exact takes_value positive
  | some decimal =>
    obtain ⟨exponent, -, tried⟩ := List.exists_of_findSome?_eq_some found
    obtain ⟨digits, grid, rfl⟩ := Option.map_eq_some_iff.mp tried
    exact takes_of_onGrid? grid

/-- A decimal that rounds to a positive magnitude is positive. -/
theorem Takes.digits_pos (positive : 0 < x.mantissa) (takes : x.Takes (digits * 10 ^ exponent)) :
    0 < digits := by
  have low : 0 < x.quarters.1 := by
    rcases x.quarters_fst with low | ⟨low, -⟩ <;> omega
  have : (0 : ℚ) < x.quarters.1 * 2 ^ (x.exponent - 2) := by positivity
  by_contra none
  rw [Nat.eq_zero_of_not_pos none] at takes
  have := this.trans_le takes.lower
  simp at this

end Magnitude

end HostBindings
