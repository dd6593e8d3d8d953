import LogLayout.Number.Rounding
import Mathlib.Algebra.Order.Field.Power
import Mathlib.Algebra.Order.Floor.Semifield
import Mathlib.Data.Rat.Floor
import Mathlib.Tactic.Linarith
import Mathlib.Tactic.Positivity

/-!
# How near a rounded quotient is

A quotient that is rounded to a double loses at most the part `2 ^ -53` of itself, unless it is so
small that fewer significant bits are left. A whole number below `2 ^ 53` is kept as it is. Both
are stated on the numbers that doubles stand for.

Results:
1. `value_quotient`, `floor_eq`: the number that a double stands for, and its whole part.
2. `exists_quotientExponent`: the exponent at which a quotient is rounded.
3. `nearest_error`, `nearest_of_whole`: rounding a quotient.
4. `times_error`, `times_of_whole`: rounding a product.
-/

namespace LogLayout.Number

/-! ## Definitions -/

/-- The number that a double stands for. -/
def Scaled.value (x : Scaled) : ℚ := x.mantissa * 2 ^ x.exponent

/-- The least number that has a mantissa of all bits. -/
def leastNormal : ℚ := 2 ^ (-1022 : ℤ)

/-! ## 1. Numbers -/

theorem two_zpow_pos (n : ℤ) : (0 : ℚ) < 2 ^ n := zpow_pos (by norm_num) n

theorem rescale_pos (num : Nat) {den : Nat} (positive : den ≠ 0) (exponent : Int) :
    0 < (rescale num den exponent).2 := by
  unfold rescale
  split
  · exact Nat.mul_pos (Nat.pos_of_ne_zero positive) (Nat.pow_pos (by decide))
  · exact Nat.pos_of_ne_zero positive

theorem value_rescale (num den : Nat) (exponent : Int) :
    ((rescale num den exponent).1 : ℚ) / (rescale num den exponent).2 =
      num / den / 2 ^ exponent := by
  unfold rescale
  split
  · next whole =>
    obtain ⟨n, rfl⟩ := Int.eq_ofNat_of_zero_le whole
    simp [div_div]
  · next part =>
    obtain ⟨n, rfl⟩ := Int.exists_eq_neg_ofNat (Int.not_le.1 part).le
    simp [mul_div_right_comm]

theorem quotient_pos (x : Scaled) : 0 < x.quotient.2 := by
  unfold Scaled.quotient
  split
  · exact Nat.one_pos
  · exact Nat.pow_pos (by decide)

theorem value_quotient (x : Scaled) : (x.quotient.1 : ℚ) / x.quotient.2 = x.value := by
  unfold Scaled.quotient Scaled.value
  split
  · next whole =>
    obtain ⟨n, exponent⟩ := Int.eq_ofNat_of_zero_le whole
    simp [exponent]
  · next part =>
    obtain ⟨n, exponent⟩ := Int.exists_eq_neg_ofNat (Int.not_le.1 part).le
    simp [exponent, div_eq_mul_inv]

theorem value_nonneg (x : Scaled) : 0 ≤ x.value := by
  unfold Scaled.value
  positivity

theorem floor_eq (x : Scaled) : x.floor = ⌊x.value⌋₊ := by
  rw [← value_quotient, Nat.floor_div_eq_div, Scaled.floor]

theorem floor_le_value (x : Scaled) : (x.floor : ℚ) ≤ x.value := by
  rw [floor_eq]
  exact Nat.floor_le (value_nonneg x)

theorem value_lt_floor_add_one (x : Scaled) : x.value < x.floor + 1 := by
  rw [floor_eq]
  exact Nat.lt_floor_add_one _

/-! ## 2. The exponent of a quotient -/

/-- The quotient lies between two powers of two given by the lengths of its parts. -/
theorem quotient_bounds {num den : Nat} (something : num ≠ 0) (positive : den ≠ 0) :
    (2 : ℚ) ^ ((Nat.log2 num : ℤ) - Nat.log2 den - 1) ≤ num / den ∧
      (num : ℚ) / den < 2 ^ ((Nat.log2 num : ℤ) - Nat.log2 den + 1) := by
  have numLeast : (2 : ℚ) ^ Nat.log2 num ≤ num := by exact_mod_cast Nat.log2_self_le something
  have numMost : (num : ℚ) < 2 ^ (Nat.log2 num + 1) := by exact_mod_cast Nat.lt_log2_self
  have denLeast : (2 : ℚ) ^ Nat.log2 den ≤ den := by exact_mod_cast Nat.log2_self_le positive
  have denMost : (den : ℚ) < 2 ^ (Nat.log2 den + 1) := by exact_mod_cast Nat.lt_log2_self
  have den0 : (0 : ℚ) < den := by exact_mod_cast Nat.pos_of_ne_zero positive
  constructor
  · calc (2 : ℚ) ^ ((Nat.log2 num : ℤ) - Nat.log2 den - 1)
        = 2 ^ Nat.log2 num / 2 ^ (Nat.log2 den + 1) := by
          rw [sub_sub, zpow_sub₀ (by norm_num), zpow_natCast]
          norm_cast
      _ ≤ num / den := div_le_div₀ (by positivity) numLeast den0 denMost.le
  · calc (num : ℚ) / den
        < 2 ^ (Nat.log2 num + 1) / 2 ^ Nat.log2 den :=
          div_lt_div₀ numMost denLeast (by positivity) (by positivity)
      _ = 2 ^ ((Nat.log2 num : ℤ) - Nat.log2 den + 1) := by
          rw [sub_add_eq_add_sub, zpow_sub₀ (by norm_num), zpow_natCast]
          norm_cast

/-- The exponent is the one at which the quotient has fifty-three bits, unless it is too small. -/
theorem exists_quotientExponent {num den : Nat} (something : num ≠ 0) (positive : den ≠ 0) :
    ∃ exponent, quotientExponent num den = max exponent minExponent ∧
      (2 : ℚ) ^ (exponent + 52) ≤ num / den ∧ (num : ℚ) / den < 2 ^ (exponent + 53) := by
  obtain ⟨least, most⟩ := quotient_bounds something positive
  set guess : ℤ := (Nat.log2 num : ℤ) - Nat.log2 den - 52 with isGuess
  have scaled : ((rescale num den guess).1 / (rescale num den guess).2 < Nat.pow 2 52) ↔
      (num : ℚ) / den < 2 ^ (guess + 52) := by
    have den0 := rescale_pos num positive guess
    rw [Nat.div_lt_iff_lt_mul den0, zpow_add₀ (by norm_num), ← div_lt_iff₀' (two_zpow_pos guess),
      ← value_rescale, div_lt_iff₀ (by exact_mod_cast den0)]
    norm_cast
  refine ⟨if (num : ℚ) / den < 2 ^ (guess + 52) then guess - 1 else guess, ?_, ?_⟩
  · simp only [quotientExponent, ← isGuess, scaled]
  · split
    · next below =>
      refine ⟨?_, ?_⟩
      · convert least using 2
        omega
      · convert below using 2
        omega
    · next above =>
      refine ⟨not_lt.1 above, ?_⟩
      convert most using 2
      omega

theorem ne_zero_of_normal {num den : Nat} (normal : leastNormal ≤ (num : ℚ) / den) : num ≠ 0 := by
  rintro rfl
  have := two_zpow_pos (-1022)
  simp only [leastNormal, Nat.cast_zero, zero_div] at normal
  linarith

/-- A quotient that is not too small has fifty-three bits at its exponent. -/
theorem quotientExponent_bounds {num den : Nat} (positive : den ≠ 0)
    (normal : leastNormal ≤ (num : ℚ) / den) :
    (2 : ℚ) ^ (quotientExponent num den + 52) ≤ num / den ∧
      (num : ℚ) / den < 2 ^ (quotientExponent num den + 53) := by
  obtain ⟨exponent, same, least, most⟩ :=
    exists_quotientExponent (ne_zero_of_normal normal) positive
  have above : (2 : ℚ) ^ (-1022 : ℤ) < 2 ^ (exponent + 53) := normal.trans_lt most
  have large := (zpow_lt_zpow_iff_right₀ (by norm_num)).1 above
  rw [same, max_eq_left (by unfold minExponent; omega)]
  exact ⟨least, most⟩

/-! ## 3. Rounding a quotient -/

theorem roundQuotient_error (num : Nat) {den : Nat} (positive : 0 < den) :
    |(roundQuotient num den : ℚ) - num / den| ≤ 1 / 2 := by
  obtain ⟨above, below⟩ := roundQuotient_near num den positive
  have den0 : (0 : ℚ) < den := by exact_mod_cast positive
  have above' : (2 : ℚ) * (roundQuotient num den * den) ≤ 2 * num + den := by exact_mod_cast above
  have below' : (2 : ℚ) * num ≤ 2 * (roundQuotient num den * den) + den := by exact_mod_cast below
  rw [abs_le]
  constructor
  · rw [le_sub_iff_add_le, ← le_sub_iff_add_le', div_le_iff₀ den0]
    linarith
  · rw [sub_le_iff_le_add', ← sub_le_iff_le_add, le_div_iff₀ den0]
    linarith

/-- The number that a quotient is rounded to. A mantissa of one bit too many is written with the
next exponent. -/
theorem value_nearest {num den : Nat} (something : num ≠ 0) :
    (nearest num den).value =
      roundQuotient (rescale num den (quotientExponent num den)).1
        (rescale num den (quotientExponent num den)).2 * 2 ^ quotientExponent num den := by
  simp only [nearest, if_neg something]
  split
  · next full =>
    rw [full, Scaled.value, zpow_add₀ (by norm_num)]
    norm_num
    ring
  · rfl

/-- Rounding a quotient loses at most the part `2 ^ -53` of it. -/
theorem nearest_error {num den : Nat} (positive : den ≠ 0)
    (normal : leastNormal ≤ (num : ℚ) / den) :
    |(nearest num den).value - num / den| ≤ num / den / 2 ^ 53 := by
  obtain ⟨least, -⟩ := quotientExponent_bounds positive normal
  set exponent := quotientExponent num den
  have unit := two_zpow_pos exponent
  have error := roundQuotient_error (rescale num den exponent).1 (rescale_pos num positive exponent)
  rw [value_rescale] at error
  rw [value_nearest (ne_zero_of_normal normal)]
  calc |(roundQuotient _ _ : ℚ) * 2 ^ exponent - num / den|
      = |(roundQuotient _ _ : ℚ) - num / den / 2 ^ exponent| * 2 ^ exponent := by
        rw [← abs_of_pos unit, ← abs_mul, abs_of_pos unit, sub_mul, div_mul_cancel₀ _ unit.ne']
    _ ≤ 1 / 2 * 2 ^ exponent := by gcongr
    _ = 2 ^ (exponent + 52) / 2 ^ 53 := by
        rw [zpow_add₀ (by norm_num)]
        norm_num
        ring
    _ ≤ num / den / 2 ^ 53 := by gcongr

theorem roundQuotient_mul {den : Nat} (positive : 0 < den) (n : Nat) :
    roundQuotient (n * den) den = n := by
  simp only [roundQuotient, Nat.mul_mod_left, Nat.mul_div_cancel n positive]
  rw [if_pos (by omega)]

theorem leastNormal_le_one : leastNormal ≤ 1 :=
  zpow_le_one_of_nonpos₀ (by norm_num) (by norm_num)

/-- A quotient that is a whole number of at most fifty-three bits is kept. -/
theorem nearest_of_whole {num den n : Nat} (positive : den ≠ 0) (whole : (num : ℚ) / den = n)
    (small : n < 2 ^ 53) : (nearest num den).value = n := by
  have den0 : (den : ℚ) ≠ 0 := by exact_mod_cast positive
  by_cases nothing : num = 0
  · subst nothing
    have : n = 0 := by simpa using whole.symm
    simp [nearest, Scaled.value, this]
  · have one : 1 ≤ n := by
      rw [Nat.one_le_iff_ne_zero]
      rintro rfl
      simp [nothing, positive] at whole
    have normal : leastNormal ≤ (num : ℚ) / den := by
      rw [whole]
      exact leastNormal_le_one.trans (by exact_mod_cast one)
    obtain ⟨least, -⟩ := quotientExponent_bounds positive normal
    set exponent := quotientExponent num den with isExponent
    have fits : (2 : ℚ) ^ (exponent + 52) < 2 ^ (53 : ℤ) := by
      refine (least.trans_eq whole).trans_lt ?_
      exact_mod_cast small
    have part : exponent ≤ 0 := by
      have := (zpow_lt_zpow_iff_right₀ (by norm_num)).1 fits
      omega
    obtain ⟨k, isPart⟩ := Int.exists_eq_neg_ofNat part
    -- At this exponent the quotient is a whole number already, so nothing is rounded.
    have scaled : (rescale num den exponent).1 = n * 2 ^ k * (rescale num den exponent).2 := by
      have pos := rescale_pos num positive exponent
      have value := value_rescale num den exponent
      rw [whole, div_eq_iff (by exact_mod_cast pos.ne'), isPart, zpow_neg, zpow_natCast,
        div_inv_eq_mul] at value
      rw [isPart]
      exact_mod_cast value
    rw [value_nearest nothing, ← isExponent, scaled,
      roundQuotient_mul (rescale_pos num positive exponent), isPart, zpow_neg,
      zpow_natCast]
    push_cast
    rw [mul_inv_cancel_right₀ (by positivity)]

/-! ## 4. Rounding a product -/

theorem quotient_times (x : Scaled) (factor : Nat) :
    ((x.quotient.1 * factor : Nat) : ℚ) / x.quotient.2 = x.value * factor := by
  rw [Nat.cast_mul, mul_div_right_comm, value_quotient]

theorem times_error {x : Scaled} {factor : Nat} (normal : leastNormal ≤ x.value * factor) :
    |(x.times factor).value - x.value * factor| ≤ x.value * factor / 2 ^ 53 := by
  rw [← quotient_times] at normal ⊢
  exact nearest_error (quotient_pos x).ne' normal

theorem times_of_whole {x : Scaled} {factor n : Nat} (whole : x.value * factor = n)
    (small : n < 2 ^ 53) : (x.times factor).value = n := by
  rw [← quotient_times] at whole
  exact nearest_of_whole (quotient_pos x).ne' whole small

end LogLayout.Number
