import PhysicsScene.Proofs.Number.Packing

/-!
# Rounding of doubles

A product and a quotient of doubles are computed exactly enough to be rounded once. The standard
library keeps two bits behind a mantissa, which say on which side of the middle between two
mantissas the exact number lies (`Represents`). So the result is a whole number of steps from the
exact one by at most half a step (`IsRounding`), and equal to it if a double can be.
-/

namespace PhysicsScene

open Float.Model (UnpackedFloat totalExponent)
open Float.Model.UnpackedFloat

/-- What a mantissa with its two residual bits says about an exact number. -/
def Represents (mantissa : ExtendedMantissa) (exact : ℚ) : Prop :=
  match mantissa.roundBit, mantissa.stickyBit with
  | false, false => exact = mantissa.mantissa
  | false, true => mantissa.mantissa < exact ∧ exact < mantissa.mantissa + 1 / 2
  | true, false => exact = mantissa.mantissa + 1 / 2
  | true, true => mantissa.mantissa + 1 / 2 < exact ∧ exact < mantissa.mantissa + 1

theorem represents_exact (mantissa : Nat) :
    Represents (.ofMantissaAndAccuracy mantissa .exact) mantissa := by
  simp [Represents, ExtendedMantissa.ofMantissaAndAccuracy]

/-- An exact quotient is a whole one and what the remainder adds to it. -/
theorem quotient_eq (numerator : ℕ) {denominator : ℕ} (positive : 0 < denominator) :
    (numerator : ℚ) / denominator =
      (numerator / denominator : ℕ) + (numerator % denominator : ℕ) / denominator := by
  have isPositive : (0 : ℚ) < denominator := by exact_mod_cast positive
  have parts : ((denominator * (numerator / denominator) + numerator % denominator : ℕ) : ℚ) =
      numerator := by
    rw [Nat.div_add_mod]
  push_cast at parts
  rw [← parts]
  field_simp

/-- A whole quotient with its remainder stands for the exact quotient. -/
theorem represents_quotient (numerator : Nat) {denominator : Nat} (positive : 0 < denominator) :
    Represents (.ofMantissaAndAccuracy (numerator / denominator)
      (accuracyOfFraction (numerator % denominator) denominator)) (numerator / denominator) := by
  have isPositive : (0 : ℚ) < denominator := by exact_mod_cast positive
  have small := Nat.mod_lt numerator positive
  rw [quotient_eq numerator positive]
  generalize numerator % denominator = remainder at small
  generalize numerator / denominator = quotient
  by_cases zero : remainder = 0
  · simp [accuracyOfFraction, zero, Represents, ExtendedMantissa.ofMantissaAndAccuracy]
  · have notZero : (0 : ℚ) < remainder := by exact_mod_cast Nat.pos_of_ne_zero zero
    have above := div_pos notZero isPositive
    have below : (remainder : ℚ) / denominator < 1 := by
      rw [div_lt_one isPositive]
      exact_mod_cast small
    rcases Nat.lt_trichotomy (2 * remainder) denominator with half | half | half
    · have asRat : (2 : ℚ) * remainder < denominator := by exact_mod_cast half
      have lower : (remainder : ℚ) / denominator < 1 / 2 := by
        rw [div_lt_iff₀ isPositive]
        linarith
      simp only [accuracyOfFraction, zero, if_false, Nat.compare_eq_lt.2 half, Represents,
        ExtendedMantissa.ofMantissaAndAccuracy]
      constructor <;> linarith
    · have asRat : (2 : ℚ) * remainder = denominator := by exact_mod_cast half
      have middle : (remainder : ℚ) / denominator = 1 / 2 := by
        rw [div_eq_iff isPositive.ne']
        linarith
      simp only [accuracyOfFraction, zero, if_false, Nat.compare_eq_eq.2 half, Represents,
        ExtendedMantissa.ofMantissaAndAccuracy, middle]
    · have asRat : (denominator : ℚ) < 2 * remainder := by exact_mod_cast half
      have upper : 1 / 2 < (remainder : ℚ) / denominator := by
        rw [lt_div_iff₀ isPositive]
        linarith
      simp only [accuracyOfFraction, zero, if_false, Nat.compare_eq_gt.2 half, Represents,
        ExtendedMantissa.ofMantissaAndAccuracy]
      constructor <;> linarith

theorem Represents.abs_sub_le {mantissa : ExtendedMantissa} {exact : ℚ}
    (represents : Represents mantissa exact) :
    |(mantissa.roundedMantissa : ℚ) - exact| ≤ 1 / 2 := by
  rcases mantissa with ⟨mantissa, round, sticky⟩
  rw [abs_le]
  cases round <;> cases sticky <;>
    simp only [Represents, ExtendedMantissa.roundedMantissa, ExtendedMantissa.accuracy,
      Accuracy.roundToNearestEven] at represents ⊢
  · rw [represents]
    norm_num
  · constructor <;> linarith
  · have parity : mantissa % 2 = 0 ∨ mantissa % 2 = 1 := by omega
    rw [represents]
    rcases parity with even | odd
    · rw [even]
      norm_num
    · rw [odd]
      push_cast
      constructor <;> linarith
  · push_cast
    constructor <;> linarith

theorem Represents.mantissa_le {mantissa : ExtendedMantissa} {exact : ℚ}
    (represents : Represents mantissa exact) :
    (mantissa.mantissa : ℚ) ≤ exact ∧ exact < mantissa.mantissa + 1 := by
  rcases mantissa with ⟨mantissa, round, sticky⟩
  cases round <;> cases sticky <;> simp only [Represents] at represents ⊢ <;>
    constructor <;> linarith

theorem Represents.shiftRightOne {mantissa : ExtendedMantissa} {exact : ℚ}
    (represents : Represents mantissa exact) : Represents mantissa.shiftRightOne (exact / 2) := by
  rcases mantissa with ⟨mantissa, round, sticky⟩
  have whole : ((mantissa % 2 : Nat) : ℚ) + 2 * (mantissa / 2 : Nat) = mantissa := by
    exact_mod_cast Nat.mod_add_div mantissa 2
  have parity : mantissa % 2 = 0 ∨ mantissa % 2 = 1 := by omega
  rcases parity with parity | parity <;> rw [parity] at whole <;>
    cases round <;> cases sticky <;>
    simp [Represents, ExtendedMantissa.shiftRightOne, parity] at represents whole ⊢ <;>
    (try constructor) <;> linarith

theorem Represents.shiftRight {mantissa : ExtendedMantissa} {exact : ℚ}
    (represents : Represents mantissa exact) (places : Nat) :
    Represents (mantissa >>> places) (exact / 2 ^ places) := by
  change Represents (places.repeat ExtendedMantissa.shiftRightOne mantissa) _
  induction places with
  | zero => simpa [Nat.repeat] using represents
  | succ places ih =>
      rw [Nat.repeat, pow_succ, ← div_div]
      exact ih.shiftRightOne

/--
A whole number of steps, at most half a step away from an exact number. The steps are those in which
a double of the size of the exact number has 53 bits.
-/
def IsRounding (exact rounded : ℚ) : Prop :=
  ∃ (place : ℤ) (count : ℕ), 2 ^ 52 * 2 ^ place ≤ exact ∧ exact < 2 ^ 53 * 2 ^ place ∧
    rounded = count * 2 ^ place ∧ |count - exact / 2 ^ place| ≤ 1 / 2

/-- A rounded count of steps may be one bit longer than the exact one. -/
theorem count_bounds {exact : ℚ} {count : ℕ} (low : 2 ^ 52 ≤ exact) (high : exact < 2 ^ 53)
    (error : |count - exact| ≤ 1 / 2) : 2 ^ 52 ≤ count ∧ count ≤ 2 ^ 53 := by
  have distance := abs_le.1 error
  have countLow : ((2 ^ 52 : ℕ) : ℚ) < ((count + 1 : ℕ) : ℚ) := by
    push_cast
    linarith
  have countHigh : (count : ℚ) < ((2 ^ 53 + 1 : ℕ) : ℚ) := by
    push_cast
    linarith
  exact ⟨Nat.lt_succ_iff.1 (by exact_mod_cast countLow),
    Nat.lt_succ_iff.1 (by exact_mod_cast countHigh)⟩

theorem carried (place : ℤ) :
    ((2 ^ 52 : ℕ) : ℚ) * 2 ^ (place + 1) = ((2 ^ 53 : ℕ) : ℚ) * 2 ^ place := by
  rw [zpow_add₀ two_ne_zero]
  push_cast
  ring

theorem log2_of_full {significand : ℕ} (long : 2 ^ 52 ≤ significand)
    (short : significand < 2 ^ 53) : significand.log2 = 52 := by
  have low := (Nat.le_log2 (by omega)).2 long
  have high := (Nat.log2_lt (by omega)).2 short
  omega

section Carry

variable {place : ℤ} (normal : -1074 ≤ place)

include normal

theorem shiftToTargetExponent_of_lt {count : ℕ} (long : 2 ^ 52 ≤ count) (short : count < 2 ^ 53) :
    shiftToTargetExponent .binary64 count place .exact = (⟨count, false, false⟩, place) := by
  have length := log2_of_full long short
  have target : Float.Model.Format.targetExponent .binary64 (totalExponent count place) = place := by
    simp only [Float.Model.Format.targetExponent, totalExponent, length,
      Float.Model.Format.mantissaBits, Float.Model.Format.minExponent]
    norm_num
    omega
  simp [shiftToTargetExponent, target, shiftToExponent, ExtendedMantissa.ofMantissaAndAccuracy,
    HShiftRight.hShiftRight, Nat.repeat]

/-- A mantissa that was rounded up to one more bit gives that bit back. -/
theorem shiftToTargetExponent_carry :
    shiftToTargetExponent .binary64 (2 ^ 53) place .exact =
      (⟨2 ^ 52, false, false⟩, place + 1) := by
  have target : Float.Model.Format.targetExponent .binary64 (totalExponent (2 ^ 53) place) =
      place + 1 := by
    simp only [Float.Model.Format.targetExponent, totalExponent, Nat.log2_two_pow,
      Float.Model.Format.mantissaBits, Float.Model.Format.minExponent]
    norm_num
    omega
  have one : (place + 1 - place).toNat = 1 := by omega
  simp only [shiftToTargetExponent, target, shiftToExponent, one]
  rfl

end Carry

theorem fits_of_range {significand : ℕ} {place : ℤ} (long : 2 ^ 52 ≤ significand)
    (short : significand < 2 ^ 53) (above : -1074 ≤ place) (below : place ≤ 971) :
    BinaryFormat.Fits .binary64 significand place where
  low := long
  high := short
  above := by
    simp only [Float.Model.Format.exponentBias]
    norm_num
    omega
  below := by
    simp only [Float.Model.Format.exponentBias]
    norm_num
    omega

theorem mantissa_ofMantissaAndAccuracy (mantissa : ℕ) (accuracy : Accuracy) :
    (ExtendedMantissa.ofMantissaAndAccuracy mantissa accuracy).mantissa = mantissa := by
  cases accuracy with
  | exact => rfl
  | inexact order => cases order <;> rfl

section Round

variable (sign : Sign) {mantissa : ℕ} {exponent : ℤ} {accuracy : Accuracy} {exact : ℚ}

/-- Once a mantissa is cut to full length, it is rounded and may carry into one more bit. -/
theorem exists_roundWithAccuracy_of_cut {cut : ExtendedMantissa} {place : ℤ}
    (isCut : shiftToTargetExponent .binary64 mantissa exponent accuracy = (cut, place))
    (represents : Represents cut exact) (low : 2 ^ 52 ≤ exact) (high : exact < 2 ^ 53)
    (normal : -1074 ≤ place) (small : place ≤ 970) :
    ∃ significand last positive, roundWithAccuracy .binary64 sign mantissa exponent accuracy =
        .finite sign significand last positive ∧
      BinaryFormat.Fits .binary64 significand last ∧
      IsRounding (exact * 2 ^ place) (significand * 2 ^ last) := by
  have error := represents.abs_sub_le
  generalize isCount : cut.roundedMantissa = count at error
  rcases count_bounds low high error with ⟨countLow, countHigh⟩
  have step : (0 : ℚ) < 2 ^ place := by positivity
  have rounding : IsRounding (exact * 2 ^ place) (count * 2 ^ place) := by
    refine ⟨place, count, mul_le_mul_of_nonneg_right low step.le,
      mul_lt_mul_of_pos_right high step, rfl, ?_⟩
    rwa [mul_div_cancel_right₀ _ step.ne']
  rcases countHigh.lt_or_eq with short | rfl
  · refine ⟨count, place, by omega, ?_, fits_of_range countLow short normal (by omega), rounding⟩
    simp only [roundWithAccuracy, isCut, isCount, shiftToTargetExponent_of_lt normal countLow short]
    rw [dif_neg (by omega)]
  · refine ⟨2 ^ 52, place + 1, by norm_num, ?_,
      fits_of_range (le_refl _) (by norm_num) (by omega) (by omega), ?_⟩
    · simp only [roundWithAccuracy, isCut, isCount, shiftToTargetExponent_carry normal]
      rfl
    · rwa [carried place]

/-- A mantissa that is cut to 53 bits keeps its first ones. -/
theorem cut_bounds {shift : ℕ} (long : 0 < mantissa) (length : mantissa.log2 = 52 + shift)
    (bounds : (mantissa : ℚ) ≤ exact ∧ exact < mantissa + 1) :
    2 ^ 52 ≤ exact / 2 ^ shift ∧ exact / 2 ^ shift < 2 ^ 53 := by
  constructor
  · have low : 2 ^ (52 + shift) ≤ mantissa := length ▸ Nat.log2_self_le long.ne'
    rw [le_div_iff₀ (by positivity), ← pow_add]
    exact le_trans (by exact_mod_cast low) bounds.1
  · have high : mantissa + 1 ≤ 2 ^ (53 + shift) := by
      have below := Nat.lt_log2_self (n := mantissa)
      rwa [length, show 52 + shift + 1 = 53 + shift by omega] at below
    rw [div_lt_iff₀ (by positivity), ← pow_add]
    exact lt_of_lt_of_le bounds.2 (by exact_mod_cast high)

/-- A number in the middle of the range has its last of 53 bits in the middle of the range. -/
theorem place_bounds {count : ℚ} {place : ℤ} (low : 2 ^ 52 ≤ count) (high : count < 2 ^ 53)
    (above : 2 ^ (-1000 : ℤ) ≤ count * 2 ^ place) (below : count * 2 ^ place < 2 ^ (1000 : ℤ)) :
    -1053 < place ∧ place < 948 := by
  have step : (0 : ℚ) < 2 ^ place := by positivity
  constructor
  · have power : (2 : ℚ) ^ (-1000 : ℤ) < 2 ^ (53 + place) := by
      rw [zpow_add₀ two_ne_zero]
      exact lt_of_le_of_lt above (mul_lt_mul_of_pos_right high step)
    have order := (zpow_lt_zpow_iff_right₀ (by norm_num : (1 : ℚ) < 2)).1 power
    omega
  · have power : (2 : ℚ) ^ (52 + place) < 2 ^ (1000 : ℤ) := by
      rw [zpow_add₀ two_ne_zero]
      exact lt_of_le_of_lt (mul_le_mul_of_nonneg_right low step.le) below
    have order := (zpow_lt_zpow_iff_right₀ (by norm_num : (1 : ℚ) < 2)).1 power
    omega

/-- The standard library rounds a mantissa of at least full length to the nearest one of full
length. -/
theorem exists_roundWithAccuracy
    (represents : Represents (.ofMantissaAndAccuracy mantissa accuracy) exact)
    (long : 2 ^ 52 ≤ mantissa) (above : 2 ^ (-1000 : ℤ) ≤ exact * 2 ^ exponent)
    (below : exact * 2 ^ exponent < 2 ^ (1000 : ℤ)) :
    ∃ significand last positive, roundWithAccuracy .binary64 sign mantissa exponent accuracy =
        .finite sign significand last positive ∧
      BinaryFormat.Fits .binary64 significand last ∧
      IsRounding (exact * 2 ^ exponent) (significand * 2 ^ last) := by
  have positive : 0 < mantissa := by omega
  obtain ⟨shift, length⟩ : ∃ shift, mantissa.log2 = 52 + shift :=
    Nat.exists_eq_add_of_le ((Nat.le_log2 positive.ne').2 long)
  have bounds := represents.mantissa_le
  rw [mantissa_ofMantissaAndAccuracy] at bounds
  rcases cut_bounds positive length bounds with ⟨cutLow, cutHigh⟩
  generalize isPlace : exponent + shift = place
  have scale : exact * 2 ^ exponent = exact / 2 ^ shift * 2 ^ place := by
    rw [← isPlace, zpow_add₀ two_ne_zero, zpow_natCast]
    field_simp
  rw [scale] at above below ⊢
  rcases place_bounds cutLow cutHigh above below with ⟨normal, small⟩
  have target : Float.Model.Format.targetExponent .binary64 (totalExponent mantissa exponent) =
      place := by
    simp only [Float.Model.Format.targetExponent, totalExponent, length,
      Float.Model.Format.mantissaBits, Float.Model.Format.minExponent]
    norm_num
    omega
  have isCut : shiftToTargetExponent .binary64 mantissa exponent accuracy =
      (ExtendedMantissa.ofMantissaAndAccuracy mantissa accuracy >>> shift, place) := by
    simp only [shiftToTargetExponent, target, shiftToExponent,
      show (place - exponent).toNat = shift by omega, isPlace]
  exact exists_roundWithAccuracy_of_cut sign isCut (represents.shiftRight shift) cutLow cutHigh
    (by omega) (by omega)

end Round

namespace IsRounding

variable {exact rounded : ℚ}

/-- A rounding is off by half of the last of 53 bits at most. -/
theorem abs_sub_le (rounding : IsRounding exact rounded) :
    |rounded - exact| ≤ exact / 2 ^ 53 := by
  rcases rounding with ⟨place, count, low, high, rfl, error⟩
  have step : (0 : ℚ) < 2 ^ place := by positivity
  have scaled : (count : ℚ) * 2 ^ place - exact = (count - exact / 2 ^ place) * 2 ^ place := by
    field_simp
  rw [scaled, abs_mul, abs_of_pos step]
  calc |(count : ℚ) - exact / 2 ^ place| * 2 ^ place ≤ 1 / 2 * 2 ^ place :=
        mul_le_mul_of_nonneg_right error step.le
    _ ≤ exact / 2 ^ 53 := by
        rw [le_div_iff₀ (by positivity)]
        linarith

/-- What fits into 53 bits is not changed. -/
theorem eq_of_short (rounding : IsRounding exact rounded) {significand : ℕ} {exponent : ℤ}
    (short : significand < 2 ^ 53) (isExact : exact = significand * 2 ^ exponent) :
    rounded = exact := by
  rcases rounding with ⟨place, count, low, high, rfl, error⟩
  have step : (0 : ℚ) < 2 ^ place := by positivity
  have shortRat : (significand : ℚ) < 2 ^ 53 := by exact_mod_cast short
  have order : place ≤ exponent := by
    have power : (2 : ℚ) ^ (52 + place) < 2 ^ (53 + exponent) := by
      rw [zpow_add₀ two_ne_zero, zpow_add₀ two_ne_zero]
      refine lt_of_le_of_lt low ?_
      rw [isExact]
      exact mul_lt_mul_of_pos_right shortRat (by positivity)
    have below := (zpow_lt_zpow_iff_right₀ (by norm_num : (1 : ℚ) < 2)).1 power
    omega
  obtain ⟨shift, rfl⟩ := Int.le.dest order
  have whole : exact / 2 ^ place = ((significand * 2 ^ shift : ℕ) : ℚ) := by
    rw [isExact, zpow_add₀ two_ne_zero, zpow_natCast]
    push_cast
    field_simp
  have same : count = significand * 2 ^ shift := by
    rw [whole] at error
    have close : |((count : ℤ) - (significand * 2 ^ shift : ℕ) : ℤ)| < 1 := by
      have asRat : |((count : ℚ) - ((significand * 2 ^ shift : ℕ) : ℚ))| < 1 := by linarith
      exact_mod_cast asRat
    have zero := Int.abs_lt_one_iff.1 close
    omega
  rw [← same] at whole
  rw [← whole]
  field_simp

end IsRounding

namespace Double

/-- A positive number with a full-length significand stands for an exact one. -/
def Is (number : Float) (exact : ℚ) : Prop :=
  ∃ significand exponent, value number = .finite false significand exponent ∧
    2 ^ 52 ≤ significand ∧ significand < 2 ^ 53 ∧ exact = significand * 2 ^ exponent

/-- What rounds to a number that fits is a number that is rounded. -/
theorem exists_is_of_rounds {number : Float} {exact : ℚ}
    (rounds : ∃ significand last positive,
      number = .ofModel (.pack (.finite .positive significand last positive)) ∧
        BinaryFormat.Fits .binary64 significand last ∧
        IsRounding exact (significand * 2 ^ last)) :
    ∃ rounded, Is number rounded ∧ IsRounding exact rounded := by
  rcases rounds with ⟨significand, last, positive, rfl, fits, rounding⟩
  exact ⟨_, ⟨significand, last, value_pack positive fits, fits.low, fits.high, rfl⟩, rounding⟩

variable {first second : Float} {x y : ℚ}

/-- A product is rounded once. -/
theorem exists_is_mul (isFirst : Is first x) (isSecond : Is second y)
    (above : 2 ^ (-1000 : ℤ) ≤ x * y) (below : x * y < 2 ^ (1000 : ℤ)) :
    ∃ product, Is (first * second) product ∧ IsRounding (x * y) product := by
  rcases isFirst with ⟨m, e, isFirst, firstLong, firstShort, rfl⟩
  rcases isSecond with ⟨n, f, isSecond, secondLong, secondShort, rfl⟩
  have scale : (m : ℚ) * 2 ^ e * (n * 2 ^ f) = ((m * n : ℕ) : ℚ) * 2 ^ (e + f) := by
    rw [zpow_add₀ two_ne_zero]
    push_cast
    ring
  rw [scale] at above below ⊢
  have long : 2 ^ 52 ≤ m * n := le_trans firstLong (Nat.le_mul_of_pos_right m (by omega))
  rcases exists_roundWithAccuracy .positive (represents_exact (m * n)) long above below with
    ⟨significand, last, positive, rounds, fits, rounding⟩
  refine exists_is_of_rounds ⟨significand, last, positive, ?_, fits, rounding⟩
  have unpacked : UnpackedFloat.mul .binary64 first.toModel.unpack second.toModel.unpack =
      .finite .positive significand last positive := by
    rw [unpack_eq isFirst (by omega), unpack_eq isSecond (by omega), ← rounds]
    rfl
  rw [← unpacked]
  rfl

/-- A quotient is rounded once. -/
theorem exists_is_div (isFirst : Is first x) (isSecond : Is second y)
    (above : 2 ^ (-1000 : ℤ) ≤ x / y) (below : x / y < 2 ^ (1000 : ℤ)) :
    ∃ quotient, Is (first / second) quotient ∧ IsRounding (x / y) quotient := by
  rcases isFirst with ⟨m, e, isFirst, firstLong, firstShort, rfl⟩
  rcases isSecond with ⟨n, f, isSecond, secondLong, secondShort, rfl⟩
  have positive : (0 : ℚ) < n := by exact_mod_cast (by omega : 0 < n)
  -- The quotient is computed with 53 digits more than the significands have.
  have scale : (m : ℚ) * 2 ^ e / (n * 2 ^ f) =
      ((m * 2 ^ 53 : ℕ) : ℚ) / n * 2 ^ (e - f - 53) := by
    rw [zpow_sub₀ two_ne_zero, zpow_sub₀ two_ne_zero]
    push_cast
    field_simp
  have ratio : ((m * 2 ^ 53 : ℕ) : ℚ) / n < 2 ^ 54 := by
    rw [div_lt_iff₀ positive]
    exact_mod_cast (by omega : m * 2 ^ 53 < 2 ^ 54 * n)
  have long : 2 ^ 52 ≤ m * 2 ^ 53 / n := by
    rw [Nat.le_div_iff_mul_le (by omega)]
    omega
  rw [scale] at above below ⊢
  have normal : -1074 ≤ e - f - 53 := by
    have power : (2 : ℚ) ^ (-1000 : ℤ) < 2 ^ (54 + (e - f - 53)) := by
      rw [zpow_add₀ two_ne_zero]
      exact lt_of_le_of_lt above (mul_lt_mul_of_pos_right ratio (by positivity))
    have order := (zpow_lt_zpow_iff_right₀ (by norm_num : (1 : ℚ) < 2)).1 power
    omega
  have core : divCore .binary64 m e n f = (m * 2 ^ 53 / n, e - f - 53,
      accuracyOfFraction (m * 2 ^ 53 % n) n) := by
    have target : min (e - f) (Float.Model.Format.targetExponent .binary64
        (totalExponent m e - totalExponent n f)) = e - f - 53 := by
      simp only [Float.Model.Format.targetExponent, totalExponent, log2_of_full firstLong firstShort,
        log2_of_full secondLong secondShort, Float.Model.Format.mantissaBits,
        Float.Model.Format.minExponent]
      norm_num
      omega
    simp only [divCore, target, show (e - f - (e - f - 53)).toNat = 53 by omega, Nat.shiftLeft_eq]
  rcases exists_roundWithAccuracy .positive (represents_quotient (m * 2 ^ 53) (by omega)) long
    above below with ⟨significand, last, positive, rounds, fits, rounding⟩
  refine exists_is_of_rounds ⟨significand, last, positive, ?_, fits, rounding⟩
  have unpacked : UnpackedFloat.div .binary64 first.toModel.unpack second.toModel.unpack =
      .finite .positive significand last positive := by
    rw [unpack_eq isFirst (by omega), unpack_eq isSecond (by omega), ← rounds]
    simp only [UnpackedFloat.div, core]
    rfl
  rw [← unpacked]
  rfl

end Double

end PhysicsScene
