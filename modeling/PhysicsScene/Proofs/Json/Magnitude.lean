import PhysicsScene.Json.Numeral
import PhysicsScene.Proofs.Number.Nearest

/-!
# How near the quick rule comes

The magnitude of a numeral is found by one multiplication or division by a power of ten. The power
is rounded, the result is rounded again, and both together are less than five quarters of a unit of
the last of 53 bits. Powers up to the twenty-second are exact, so with them only one rounding is
left.
-/

namespace PhysicsScene

namespace IsRounding

variable {exact rounded : ℚ}

theorem bounds (rounding : IsRounding exact rounded) :
    exact * (1 - 1 / 2 ^ 53) ≤ rounded ∧ rounded ≤ exact * (1 + 1 / 2 ^ 53) := by
  have error := abs_le.1 rounding.abs_sub_le
  constructor <;> linarith

variable {factor power found : ℚ}

/-- A product with a rounded factor that is rounded itself. -/
theorem abs_mul_sub_le (notNegative : 0 ≤ factor) (some : 0 ≤ exact)
    (isPower : IsRounding exact power) (isFound : IsRounding (factor * power) found) :
    |found - factor * exact| ≤ factor * exact * (5 / 2 ^ 54) := by
  have product := mul_nonneg notNegative some
  have low := mul_le_mul_of_nonneg_left isPower.bounds.1 notNegative
  have high := mul_le_mul_of_nonneg_left isPower.bounds.2 notNegative
  rw [← mul_assoc] at low high
  have found := isFound.bounds
  rw [abs_le]
  constructor <;> linarith

/-- A quotient by a rounded divisor that is rounded itself. -/
theorem abs_div_sub_le (notNegative : 0 ≤ factor) (some : 0 < exact)
    (isPower : IsRounding exact power) (isFound : IsRounding (factor / power) found) :
    |found - factor / exact| ≤ factor / exact * (5 / 2 ^ 54) := by
  have powerSome : 0 < power :=
    lt_of_lt_of_le (mul_pos some (by norm_num)) isPower.bounds.1
  have quotient := div_nonneg notNegative powerSome.le
  have cancelled : factor / power * power / exact = factor / exact := by
    rw [div_mul_cancel₀ _ powerSome.ne']
  have low := div_le_div_of_nonneg_right
    (mul_le_mul_of_nonneg_left isPower.bounds.1 quotient) some.le
  have high := div_le_div_of_nonneg_right
    (mul_le_mul_of_nonneg_left isPower.bounds.2 quotient) some.le
  rw [cancelled, mul_left_comm, mul_div_cancel_left₀ _ some.ne'] at low high
  have found := isFound.bounds
  rw [abs_le]
  constructor <;> linarith

end IsRounding

namespace Double

/-- A short whole number is a double itself. -/
theorem is_ofInt_of_short {whole : ℕ} (positive : 0 < whole) (short : whole < 2 ^ 53) :
    Is (ofInt whole) whole := by
  rcases exists_is_ofInt positive (natCast_lt_of_lt short (by decide)) with ⟨rounded, isDouble, rounding⟩
  have isWhole : (whole : ℚ) = whole * 2 ^ (0 : ℤ) := by simp
  rwa [rounding.eq_of_short short isWhole] at isDouble

theorem pow_ten_lt {exponent : ℕ} (small : exponent ≤ 60) : (10 : ℚ) ^ exponent < 2 ^ (200 : ℤ) := by
  calc (10 : ℚ) ^ exponent ≤ 10 ^ 60 := pow_le_pow_right₀ (by norm_num) small
    _ < 2 ^ (200 : ℤ) := by norm_num

theorem exists_is_powerOfTen {exponent : ℕ} (small : exponent ≤ 60) :
    ∃ power, Is (powerOfTen exponent) power ∧ IsRounding (10 ^ exponent) power := by
  have below : ((10 ^ exponent : ℕ) : ℚ) < 2 ^ (1000 : ℤ) := by
    rw [Nat.cast_pow, Nat.cast_ofNat]
    exact (pow_ten_lt small).trans_le (zpow_le_zpow_right₀ (by norm_num) (by norm_num))
  rcases exists_is_ofInt (Nat.pow_pos (by decide)) below with ⟨power, isPower, rounding⟩
  push_cast at rounding
  exact ⟨power, isPower, rounding⟩

/-- A moderate power of ten is in the middle of the range of doubles. -/
theorem power_bounds {exponent : ℕ} (small : exponent ≤ 60) {power : ℚ}
    (isPower : IsRounding (10 ^ exponent) power) : 1 / 2 ≤ power ∧ power ≤ 2 ^ (201 : ℤ) := by
  have one : (1 : ℚ) ≤ 10 ^ exponent := one_le_pow₀ (by norm_num)
  have bounds := isPower.bounds
  have high := pow_ten_lt small
  have double : (2 : ℚ) ^ (201 : ℤ) = 2 ^ (200 : ℤ) * 2 := by
    rw [← zpow_add_one₀ two_ne_zero]
    norm_num
  constructor <;> linarith

variable {whole exponent : ℕ} {power : ℚ}

/-- A short whole number times a moderate power of ten is in the range of doubles. -/
theorem mul_power_bounds (positive : 0 < whole) (short : whole < 2 ^ 53) (small : exponent ≤ 60)
    (isPower : IsRounding (10 ^ exponent) power) :
    (2 : ℚ) ^ (-1000 : ℤ) ≤ whole * power ∧ whole * power < (2 : ℚ) ^ (1000 : ℤ) := by
  rcases power_bounds small isPower with ⟨low, high⟩
  have one : (1 : ℚ) ≤ whole := by exact_mod_cast positive
  have isShort : (whole : ℚ) < 2 ^ (53 : ℤ) := by exact_mod_cast short
  constructor
  · calc (2 : ℚ) ^ (-1000 : ℤ) ≤ 2 ^ (-1 : ℤ) := zpow_le_zpow_right₀ (by norm_num) (by norm_num)
      _ = 1 * (1 / 2) := by norm_num
      _ ≤ whole * power := mul_le_mul one low (by norm_num) (Nat.cast_nonneg _)
  · calc whole * power < (2 : ℚ) ^ (53 : ℤ) * 2 ^ (201 : ℤ) :=
          mul_lt_mul isShort high (by linarith) (by positivity)
      _ = 2 ^ (254 : ℤ) := by norm_num
      _ ≤ 2 ^ (1000 : ℤ) := zpow_le_zpow_right₀ (by norm_num) (by norm_num)

/-- A short whole number by a moderate power of ten is in the range of doubles. -/
theorem div_power_bounds (positive : 0 < whole) (short : whole < 2 ^ 53) (small : exponent ≤ 60)
    (isPower : IsRounding (10 ^ exponent) power) :
    (2 : ℚ) ^ (-1000 : ℤ) ≤ whole / power ∧ whole / power < (2 : ℚ) ^ (1000 : ℤ) := by
  rcases power_bounds small isPower with ⟨low, high⟩
  have one : (1 : ℚ) ≤ whole := by exact_mod_cast positive
  have isShort : (whole : ℚ) < 2 ^ (53 : ℤ) := by exact_mod_cast short
  constructor
  · calc (2 : ℚ) ^ (-1000 : ℤ) ≤ 2 ^ (-201 : ℤ) :=
          zpow_le_zpow_right₀ (by norm_num) (by norm_num)
      _ = 1 / 2 ^ (201 : ℤ) := by rw [zpow_neg, one_div]
      _ ≤ whole / power := div_le_div₀ (Nat.cast_nonneg _) one (by linarith) high
  · calc whole / power < (2 : ℚ) ^ (53 : ℤ) / (1 / 2) :=
          div_lt_div₀ isShort low (by positivity) (by norm_num)
      _ = 2 ^ (54 : ℤ) := by norm_num
      _ ≤ 2 ^ (1000 : ℤ) := zpow_le_zpow_right₀ (by norm_num) (by norm_num)

/-- A small power of ten fits into 53 bits. -/
theorem eq_of_isRounding_pow {exponent : ℕ} (small : exponent ≤ 22) {power : ℚ}
    (isPower : IsRounding (10 ^ exponent) power) : power = 10 ^ exponent := by
  have short : 5 ^ exponent < 2 ^ 53 :=
    (Nat.pow_le_pow_right (by decide) small).trans_lt (by norm_num)
  have split : (10 : ℚ) ^ exponent = ((5 ^ exponent : ℕ) : ℚ) * 2 ^ (exponent : ℤ) := by
    rw [zpow_natCast]
    push_cast
    rw [← mul_pow]
    norm_num
  exact isPower.eq_of_short short split

end Double

namespace Numeral

namespace Scaled

/-- The number that a significand and a power of ten stand for. -/
def number (scaled : Scaled) : ℚ :=
  scaled.significand * 10 ^ scaled.exponent

/-- A double that is found for a scaled number. -/
structure Approximates (scaled : Scaled) (found : ℚ) : Prop where
  near : |found - scaled.number| ≤ scaled.number * (5 / 2 ^ 54)
  rounded : scaled.exponent.natAbs ≤ 22 → IsRounding scaled.number found

variable {significand : ℕ} {exponent : ℤ}

/-- A moderate power of ten up is one multiplication. -/
theorem exists_toDouble?_up (positive : 0 < significand) (short : significand < 2 ^ 53)
    (moderate : exponent.natAbs ≤ 60) (up : 0 ≤ exponent) :
    ∃ value found, toDouble? ⟨significand, exponent⟩ = some value ∧ Double.Is value found ∧
      Approximates ⟨significand, exponent⟩ found := by
  have isSignificand := Double.is_ofInt_of_short positive short
  rcases Double.exists_is_powerOfTen moderate with ⟨power, isPower, rounding⟩
  rcases Double.mul_power_bounds positive short moderate rounding with ⟨above, below⟩
  rcases Double.exists_is_mul isSignificand isPower above below with ⟨found, isFound, isRounding⟩
  have isNumber : number ⟨significand, exponent⟩ = significand * 10 ^ exponent.natAbs := by
    rw [number, ← zpow_natCast, Int.natAbs_of_nonneg up]
  have computed : toDouble? ⟨significand, exponent⟩ =
      some (Double.ofInt significand * Double.powerOfTen exponent.natAbs) := by
    simp only [toDouble?, applyExponent?]
    rw [if_pos (by omega), if_pos up]
  refine ⟨_, found, computed, isFound, ?_, fun small => ?_⟩
  · rw [isNumber]
    exact rounding.abs_mul_sub_le (Nat.cast_nonneg _) (by positivity) isRounding
  · rw [isNumber, ← Double.eq_of_isRounding_pow small rounding]
    exact isRounding

/-- A moderate power of ten down is one division. -/
theorem exists_toDouble?_down (positive : 0 < significand) (short : significand < 2 ^ 53)
    (moderate : exponent.natAbs ≤ 60) (down : exponent < 0) :
    ∃ value found, toDouble? ⟨significand, exponent⟩ = some value ∧ Double.Is value found ∧
      Approximates ⟨significand, exponent⟩ found := by
  have isSignificand := Double.is_ofInt_of_short positive short
  rcases Double.exists_is_powerOfTen moderate with ⟨power, isPower, rounding⟩
  rcases Double.div_power_bounds positive short moderate rounding with ⟨above, below⟩
  rcases Double.exists_is_div isSignificand isPower above below with ⟨found, isFound, isRounding⟩
  have isNumber : number ⟨significand, exponent⟩ = significand / 10 ^ exponent.natAbs := by
    have opposite : -(exponent.natAbs : ℤ) = exponent := by omega
    rw [← zpow_natCast, div_eq_mul_inv, ← zpow_neg, opposite]
    rfl
  have computed : toDouble? ⟨significand, exponent⟩ =
      some (Double.ofInt significand / Double.powerOfTen exponent.natAbs) := by
    simp only [toDouble?, applyExponent?]
    rw [if_pos (by omega), if_neg (by omega)]
  refine ⟨_, found, computed, isFound, ?_, fun small => ?_⟩
  · rw [isNumber]
    exact rounding.abs_div_sub_le (Nat.cast_nonneg _) (by positivity) isRounding
  · rw [isNumber, ← Double.eq_of_isRounding_pow small rounding]
    exact isRounding

/-- A number with a short significand and a moderate exponent is found with a small error. -/
theorem exists_toDouble? {scaled : Scaled} (positive : 0 < scaled.significand)
    (short : scaled.significand < 2 ^ 53) (moderate : scaled.exponent.natAbs ≤ 60) :
    ∃ value found, scaled.toDouble? = some value ∧ Double.Is value found ∧
      scaled.Approximates found := by
  rcases lt_or_ge scaled.exponent 0 with down | up
  · exact exists_toDouble?_down positive short moderate down
  · exact exists_toDouble?_up positive short moderate up

end Scaled

end Numeral

end PhysicsScene
