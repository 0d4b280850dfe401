import PhysicsScene.Proofs.Decimal.Interval

/-!
# Short decimals are far from the middle between two values

A decimal with few digits can be equal to an odd multiple `count * 2 ^ half` of a power of two, but
it can hardly be near to one without being equal to it: both would say that `10 ^ grid`, scaled by a
power of two, is nearly a fraction with a numerator below `2 ^ 25`. If one fraction is a good
approximation, then every other one is much worse (`eq_of_near`), so for each grid a single fraction
decides. It comes from the continued fraction of the scaled power of ten. Two grids have a fraction
that is too good, and they are named in the theorem.
-/

namespace PhysicsScene

namespace Decimal

namespace Separation

/-- How near a decimal comes to a multiple of a power of two, by cross-multiplying. -/
def IsNear (numerator denominator : ℕ) (first second : ℕ) : Prop :=
  2 ^ 54 * |(first * numerator : ℤ) - second * denominator| ≤ 5 * (first * numerator)

/-- The fraction `above / below` is such a good approximation that no other one is near. -/
def Decides (numerator denominator above below : ℕ) : Prop :=
  2 ^ 25 * (5 * (below * numerator) + 2 ^ 54 * |(below * numerator : ℤ) - above * denominator|) ≤
    (2 ^ 54 - 5) * numerator

instance (numerator denominator above below : ℕ) :
    Decidable (Decides numerator denominator above below) :=
  inferInstanceAs (Decidable (_ ≤ _))

variable {numerator denominator above below first second : ℕ}

/-- A fraction with a numerator below `2 ^ 25` that is near is the one that decides. -/
theorem eq_of_near (positive : 0 < denominator) (decides : Decides numerator denominator above below)
    (short : second < 2 ^ 25) (isNear : IsNear numerator denominator first second) :
    above * first = below * second := by
  rw [Decides] at decides
  rw [IsNear] at isNear
  generalize isError : (below * numerator : ℤ) - above * denominator = error at decides
  generalize isDistance : (first * numerator : ℤ) - second * denominator = distance at isNear
  by_contra different
  -- The cross difference of two fractions is a whole number of denominators.
  have cross : (denominator : ℤ) * (above * first - below * second) =
      below * distance - first * error := by
    rw [← isError, ← isDistance]
    ring
  have one : 1 ≤ |(above * first : ℤ) - below * second| := by
    apply Int.one_le_abs
    intro zero
    apply different
    have same : (above * first : ℤ) = below * second := by linarith
    exact_mod_cast same
  have isPositive : (0 : ℤ) < denominator := by exact_mod_cast positive
  have bound : (denominator : ℤ) ≤ below * |distance| + first * |error| := by
    calc (denominator : ℤ) ≤ denominator * |(above * first : ℤ) - below * second| :=
          le_mul_of_one_le_right isPositive.le one
      _ = |below * distance - first * error| := by
          rw [← cross, abs_mul, abs_of_pos isPositive]
      _ ≤ below * |distance| + first * |error| := by
          refine (abs_sub _ _).trans (le_of_eq ?_)
          rw [abs_mul, abs_mul, Nat.abs_cast, Nat.abs_cast]
  have scaled : (2 : ℤ) ^ 25 * (2 ^ 54 * denominator) ≤ (2 ^ 54 - 5) * (first * numerator) := by
    have ofDistance : (below : ℤ) * (2 ^ 54 * |distance|) ≤ below * (5 * (first * numerator)) :=
      mul_le_mul_of_nonneg_left isNear (Nat.cast_nonneg _)
    have ofError := mul_le_mul_of_nonneg_left decides (Nat.cast_nonneg (α := ℤ) first)
    linarith
  have near : (2 ^ 54 - 5) * (first * numerator : ℤ) ≤ 2 ^ 54 * (second * denominator) := by
    have upper := (abs_le.1 (le_refl |distance|)).2
    linarith
  have order : (2 : ℤ) ^ 54 * denominator * 2 ^ 25 ≤ 2 ^ 54 * denominator * second := by linarith
  have long := le_of_mul_le_mul_left order (by positivity)
  have isShort : (second : ℤ) < 2 ^ 25 := by exact_mod_cast short
  omega

/-- The exponent of the highest power of two that is at most `10 ^ grid`. -/
def binaryExponent (grid : ℤ) : ℤ :=
  if 0 ≤ grid then Nat.log2 (10 ^ grid.toNat) else -(Nat.log2 (10 ^ (-grid).toNat)) - 1

/-- The numerator of `10 ^ grid / 2 ^ binaryExponent grid`. -/
def scaledNumerator (grid : ℤ) : ℕ :=
  10 ^ grid.toNat * 2 ^ (-binaryExponent grid).toNat

/-- The denominator of `10 ^ grid / 2 ^ binaryExponent grid`. -/
def scaledDenominator (grid : ℤ) : ℕ :=
  10 ^ (-grid).toNat * 2 ^ (binaryExponent grid).toNat

/-- Goes through the convergents of a continued fraction to the first that decides. -/
def firstDeciding (numerator denominator : ℕ) :
    (steps : ℕ) → (first second : ℕ) → (earlier current : ℕ × ℕ) → ℕ × ℕ
  | 0, _, _, _, current => current
  | steps + 1, first, second, earlier, current =>
      if Decides numerator denominator current.1 current.2 then current
      else
        let quotient := first / second
        firstDeciding numerator denominator steps second (first % second) current
          (quotient * current.1 + earlier.1, quotient * current.2 + earlier.2)

/-- The fraction that decides for a grid. -/
def deciding (grid : ℤ) : ℕ × ℕ :=
  firstDeciding (scaledNumerator grid) (scaledDenominator grid) 24 (scaledNumerator grid)
    (scaledDenominator grid) (0, 1) (1, 0)

/-- The fraction that decides for a grid is not near to it, or equal to it, or not the quotient of an
odd number below `2 ^ 25`. -/
def Settled (grid : ℤ) : Prop :=
  (deciding grid).2 * scaledNumerator grid = (deciding grid).1 * scaledDenominator grid ∨
  5 * ((deciding grid).2 * scaledNumerator grid : ℤ) <
    2 ^ 54 * |((deciding grid).2 * scaledNumerator grid : ℤ) -
      (deciding grid).1 * scaledDenominator grid| ∨
  Nat.Coprime (deciding grid).1 (deciding grid).2 ∧
    (2 ^ 25 ≤ (deciding grid).1 ∨ (deciding grid).1 % 2 = 0)

instance (grid : ℤ) : Decidable (Settled grid) :=
  inferInstanceAs (Decidable (_ ∨ _))

/-- What is computed for every grid. -/
structure Certified (grid : ℤ) : Prop where
  decides : Decides (scaledNumerator grid) (scaledDenominator grid) (deciding grid).1
    (deciding grid).2
  proper : 0 < (deciding grid).2
  low : scaledDenominator grid ≤ scaledNumerator grid
  high : (2 ^ 54 + 5) * scaledNumerator grid < 2 ^ 55 * scaledDenominator grid
  settled : Settled grid ∨ grid = -32 ∨ grid = -15

instance (grid : ℤ) : Decidable (Certified grid) :=
  decidable_of_iff (Decides (scaledNumerator grid) (scaledDenominator grid) (deciding grid).1
      (deciding grid).2 ∧ 0 < (deciding grid).2 ∧
      scaledDenominator grid ≤ scaledNumerator grid ∧
      (2 ^ 54 + 5) * scaledNumerator grid < 2 ^ 55 * scaledDenominator grid ∧
      (Settled grid ∨ grid = -32 ∨ grid = -15))
    ⟨fun ⟨decides, proper, low, high, settled⟩ => ⟨decides, proper, low, high, settled⟩,
      fun ⟨decides, proper, low, high, settled⟩ => ⟨decides, proper, low, high, settled⟩⟩

theorem certified_offset : ∀ offset < 84, Certified ((offset : ℕ) - 45) := by
  decide +kernel

theorem certified {grid : ℤ} (low : -45 ≤ grid) (high : grid ≤ 38) : Certified grid := by
  have all := certified_offset (grid + 45).toNat (by omega)
  rwa [show ((grid + 45).toNat : ℤ) - 45 = grid by omega] at all

theorem scaledDenominator_pos (grid : ℤ) : 0 < scaledDenominator grid :=
  Nat.mul_pos (Nat.pow_pos (by decide)) (Nat.two_pow_pos _)

theorem zpow_eq_scaled (grid : ℤ) :
    (10 : ℚ) ^ grid =
      scaledNumerator grid / scaledDenominator grid * 2 ^ binaryExponent grid := by
  have ten := zpow_eq_div (by norm_num : (10 : ℚ) ≠ 0) grid
  have two := zpow_eq_div two_ne_zero (binaryExponent grid)
  rw [ten, two, scaledNumerator, scaledDenominator]
  push_cast
  field_simp

variable {grid half : ℤ} {digits count : ℕ}

/-- A number that is close is not below the scaled power of two. -/
theorem half_le_binaryExponent (certified : Certified grid) (order : digits ≤ count) (some : 0 < count)
    (close : |(digits : ℚ) * 10 ^ grid - count * 2 ^ half| ≤ digits * 10 ^ grid * (5 / 2 ^ 54)) :
    half ≤ binaryExponent grid := by
  by_contra beyond
  have isPositive : (0 : ℚ) < scaledDenominator grid := by
    exact_mod_cast scaledDenominator_pos grid
  have isSome : (0 : ℚ) < count := by exact_mod_cast some
  have isOrder : (digits : ℚ) ≤ count := by exact_mod_cast order
  have step : (0 : ℚ) < 2 ^ binaryExponent grid := by positivity
  have isHigh : ((2 : ℚ) ^ 54 + 5) * scaledNumerator grid < 2 ^ 55 * scaledDenominator grid := by
    exact_mod_cast certified.high
  have ratio : (2 ^ 54 + 5) * ((scaledNumerator grid : ℚ) / scaledDenominator grid) < 2 ^ 55 := by
    rw [← mul_div_assoc, div_lt_iff₀ isPositive]
    exact isHigh
  have double : (2 : ℚ) ^ (binaryExponent grid + 1) ≤ 2 ^ half :=
    zpow_le_zpow_right₀ (by norm_num) (by omega)
  rw [zpow_add₀ two_ne_zero, zpow_one] at double
  have upper : (count : ℚ) * 2 ^ half ≤ digits * 10 ^ grid * (1 + 5 / 2 ^ 54) := by
    linarith [(abs_le.1 close).1]
  rw [zpow_eq_scaled] at upper
  have notNegative : (0 : ℚ) ≤ scaledNumerator grid / scaledDenominator grid := by positivity
  generalize (scaledNumerator grid : ℚ) / scaledDenominator grid = scaled
    at ratio upper notNegative
  have small : (digits : ℚ) * (scaled * 2 ^ binaryExponent grid) * (1 + 5 / 2 ^ 54) <
      count * (2 ^ binaryExponent grid * 2) := by
    calc (digits : ℚ) * (scaled * 2 ^ binaryExponent grid) * (1 + 5 / 2 ^ 54)
        = digits * (scaled * (1 + 5 / 2 ^ 54) * 2 ^ binaryExponent grid) := by ring
      _ ≤ count * (scaled * (1 + 5 / 2 ^ 54) * 2 ^ binaryExponent grid) :=
        mul_le_mul_of_nonneg_right isOrder (by positivity)
      _ < count * (2 * 2 ^ binaryExponent grid) := by
        apply mul_lt_mul_of_pos_left _ isSome
        apply mul_lt_mul_of_pos_right _ step
        linarith
      _ = count * (2 ^ binaryExponent grid * 2) := by ring
  have large : (count : ℚ) * (2 ^ binaryExponent grid * 2) ≤ count * 2 ^ half :=
    mul_le_mul_of_nonneg_left double isSome.le
  linarith

theorem isNear_of_close {shift : ℕ} (isShift : binaryExponent grid = half + shift)
    (close : |(digits : ℚ) * 10 ^ grid - count * 2 ^ half| ≤ digits * 10 ^ grid * (5 / 2 ^ 54)) :
    IsNear (scaledNumerator grid) (scaledDenominator grid) (digits * 2 ^ shift) count := by
  have isPositive : (0 : ℚ) < scaledDenominator grid := by
    exact_mod_cast scaledDenominator_pos grid
  have step : (0 : ℚ) < 2 ^ half := by positivity
  have decimal : (digits : ℚ) * 10 ^ grid * scaledDenominator grid =
      digits * 2 ^ shift * scaledNumerator grid * 2 ^ half := by
    rw [zpow_eq_scaled, isShift, zpow_add₀ two_ne_zero, zpow_natCast]
    field_simp
  have scaled := mul_le_mul_of_nonneg_right close isPositive.le
  rw [← abs_of_pos isPositive, ← abs_mul, abs_of_pos isPositive, sub_mul, decimal] at scaled
  have factored : (digits : ℚ) * 2 ^ shift * scaledNumerator grid * 2 ^ half -
      count * 2 ^ half * scaledDenominator grid =
        (digits * 2 ^ shift * scaledNumerator grid - count * scaledDenominator grid) * 2 ^ half := by
    ring
  have product : (digits : ℚ) * 10 ^ grid * (5 / 2 ^ 54) * scaledDenominator grid =
      digits * 2 ^ shift * scaledNumerator grid * (5 / 2 ^ 54) * 2 ^ half := by
    rw [mul_right_comm, decimal]
    ring
  rw [factored, product, abs_mul, abs_of_pos step, mul_le_mul_iff_left₀ step] at scaled
  have cleared : (2 : ℚ) ^ 54 *
      |((digits * 2 ^ shift : ℕ) : ℚ) * scaledNumerator grid - count * scaledDenominator grid| ≤
        5 * ((digits * 2 ^ shift : ℕ) * scaledNumerator grid) := by
    push_cast
    linarith
  rw [IsNear]
  exact_mod_cast cleared

/-- Where the deciding fraction is settled, a near number is an equal one. -/
theorem eq_of_settled (certified : Certified grid) (settled : Settled grid) {first : ℕ}
    (some : 0 < first) (odd : count % 2 = 1) (short : count < 2 ^ 25)
    (isNear : IsNear (scaledNumerator grid) (scaledDenominator grid) first count) :
    first * scaledNumerator grid = count * scaledDenominator grid := by
  have same := eq_of_near (scaledDenominator_pos grid) certified.decides short isNear
  have proper := certified.proper
  rw [Settled] at settled
  generalize (deciding grid).1 = above at same settled
  generalize (deciding grid).2 = below at same settled proper
  rcases settled with exact | far | ⟨coprime, outside⟩
  · apply Nat.eq_of_mul_eq_mul_left proper
    calc below * (first * scaledNumerator grid)
        = first * (below * scaledNumerator grid) := by ring
      _ = above * first * scaledDenominator grid := by rw [exact]; ring
      _ = below * (count * scaledDenominator grid) := by rw [same]; ring
  · -- The distance of the number is that of the fraction, in proportion.
    have isSame : (above : ℤ) * first = below * count := by exact_mod_cast same
    have identity : (below : ℤ) * (first * scaledNumerator grid - count * scaledDenominator grid) =
        first * (below * scaledNumerator grid - above * scaledDenominator grid) := by
      rw [mul_sub, mul_sub, ← mul_assoc (below : ℤ) count, ← isSame]
      ring
    have proportion := congrArg abs identity
    rw [abs_mul, abs_mul, Nat.abs_cast, Nat.abs_cast] at proportion
    rw [IsNear] at isNear
    have isProper : (0 : ℤ) ≤ below := Nat.cast_nonneg _
    have isSome : (0 : ℤ) < first := by exact_mod_cast some
    have upper := mul_le_mul_of_nonneg_left isNear isProper
    have lower := mul_lt_mul_of_pos_left far isSome
    linarith
  · have divides : above ∣ count :=
      coprime.dvd_of_dvd_mul_left (Dvd.intro first same)
    rcases outside with large | even
    · have least := Nat.le_of_dvd (by omega) divides
      omega
    · have two : 2 ∣ count := (Nat.dvd_of_mod_eq_zero even).trans divides
      omega

end Separation

open Separation

variable {grid half : ℤ} {digits count : ℕ}

/-- A fraction in lowest terms that is the quotient of two small numbers is made of them. -/
theorem eq_of_coprime {above below first second : ℕ} (coprime : Nat.Coprime above below)
    (same : above * first = below * second) (some : 0 < second) (short : second < 2 * above) :
    second = above ∧ first = below := by
  obtain ⟨factor, rfl⟩ : above ∣ second := coprime.dvd_of_dvd_mul_left (Dvd.intro first same)
  have positive : 0 < above := by omega
  have one : factor = 1 := by
    have lower := Nat.pos_of_mul_pos_left some
    have upper : factor < 2 := by
      rw [Nat.mul_comm] at short
      exact Nat.lt_of_mul_lt_mul_right short
    omega
  subst one
  rw [Nat.mul_one, Nat.mul_comm below] at same
  exact ⟨Nat.mul_one above, Nat.eq_of_mul_eq_mul_left positive same⟩

/-- A power of two that divides a number is at most as high as it has factors of two. -/
theorem lt_of_mul_two_pow_eq (bound : ℕ) {shift product : ℕ} (isProduct : digits * 2 ^ shift = product)
    (notDivides : ¬2 ^ bound ∣ product) : shift < bound := by
  by_contra large
  apply notDivides
  rw [← isProduct]
  exact (pow_dvd_pow 2 (Nat.le_of_not_lt large)).mul_left digits

/--
A decimal that is close to an odd multiple of a power of two is equal to it, unless it is one of the
two on the grids `10 ^ (-32)` and `10 ^ (-15)`.
-/
theorem eq_of_close (low : -45 ≤ grid) (high : grid ≤ 38) (some : 0 < digits)
    (order : digits ≤ count) (odd : count % 2 = 1) (short : count < 2 ^ 25)
    (close : |(digits : ℚ) * 10 ^ grid - count * 2 ^ half| ≤ digits * 10 ^ grid * (5 / 2 ^ 54)) :
    (digits : ℚ) * 10 ^ grid = count * 2 ^ half ∨
      grid = -32 ∧ count = 22841339 ∧ (half = -107 ∨ half = -108) ∨
      grid = -15 ∧ count = 28874659 ∧ half = -50 := by
  have certified := certified low high
  have below := half_le_binaryExponent certified order (some.trans_le order) close
  obtain ⟨shift, isShift⟩ := Int.le.dest below
  have isNear := isNear_of_close isShift.symm close
  have scaledSome : 0 < digits * 2 ^ shift := Nat.mul_pos some (Nat.two_pow_pos _)
  have someCount := some.trans_le order
  rcases certified.settled with settled | rfl | rfl
  · left
    have same := eq_of_settled certified settled scaledSome odd short isNear
    have isPositive : (0 : ℚ) < scaledDenominator grid := by
      exact_mod_cast scaledDenominator_pos grid
    have isSame : (digits : ℚ) * 2 ^ shift * scaledNumerator grid =
        count * scaledDenominator grid := by
      exact_mod_cast same
    rw [zpow_eq_scaled, ← isShift, zpow_add₀ two_ne_zero, zpow_natCast, ← mul_div_right_comm,
      ← mul_div_assoc, div_eq_iff isPositive.ne']
    linear_combination (2 : ℚ) ^ half * isSame
  · have same := eq_of_near (scaledDenominator_pos _) certified.decides short isNear
    rw [show deciding (-32) = (22841339, 14077062) by decide +kernel] at same
    rw [show binaryExponent (-32) = -107 by decide +kernel] at isShift
    rcases eq_of_coprime (by decide +kernel) same someCount (short.trans (by norm_num)) with
      ⟨isCount, isDigits⟩
    have small := lt_of_mul_two_pow_eq 2 isDigits (by norm_num)
    clear same isDigits
    exact .inr (.inl ⟨rfl, isCount, by omega⟩)
  · have same := eq_of_near (scaledDenominator_pos _) certified.decides short isNear
    rw [show deciding (-15) = (28874659, 25645849) by decide +kernel] at same
    rw [show binaryExponent (-15) = -50 by decide +kernel] at isShift
    rcases eq_of_coprime (by decide +kernel) same someCount (short.trans (by norm_num)) with
      ⟨isCount, isDigits⟩
    have small := lt_of_mul_two_pow_eq 1 isDigits (by norm_num)
    clear same isDigits
    exact .inr (.inr ⟨rfl, isCount, by omega⟩)

end Decimal

end PhysicsScene
