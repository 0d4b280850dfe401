import PhysicsScene.Decimal.Shortest
import PhysicsScene.Proofs.Number.Nearest

/-!
# Rounding intervals

A rounding interval holds the exact numbers that are converted to one value of a binary format
(`nearest_of_holds`). Each of its ends is an odd multiple of a power of two that is also the
distance between the end and the value (`IsEnd.distance`). A number that leaves the interval passes an end,
so it is at least as far from a number inside as that end is (`exists_isEnd_of_not_holds`).
-/

namespace PhysicsScene

theorem zpow_eq_div {base : ℚ} (notZero : base ≠ 0) (exponent : ℤ) :
    base ^ exponent = base ^ exponent.toNat / base ^ (-exponent).toNat := by
  rw [← zpow_natCast, ← zpow_natCast, ← zpow_sub₀ notZero]
  congr 1
  omega

namespace RoundingInterval

variable {interval : RoundingInterval}

/-- A number lies in the interval. -/
def Holds (interval : RoundingInterval) (number : ℚ) : Prop :=
  if interval.closed then
    interval.low ≤ number * interval.denominator ∧ number * interval.denominator ≤ interval.high
  else interval.low < number * interval.denominator ∧ number * interval.denominator < interval.high

/-- The number that the interval is around. -/
def number (interval : RoundingInterval) : ℚ :=
  interval.middle / interval.denominator

theorem contains_eq_true_iff (point : ℕ) : interval.contains point = true ↔ interval.Holds point := by
  rw [contains, Holds]
  split
  · rw [Bool.and_eq_true, decide_eq_true_eq, decide_eq_true_eq]
    norm_cast
  · rw [Bool.and_eq_true, decide_eq_true_eq, decide_eq_true_eq]
    norm_cast

theorem holds_onGrid (grid : ℤ) (number : ℚ) :
    (interval.onGrid grid).Holds number ↔ interval.Holds (number * 10 ^ grid) := by
  have factor : (0 : ℚ) < 10 ^ (-grid).toNat := by positivity
  have scaled : number * (interval.denominator * 10 ^ grid.toNat) =
      number * 10 ^ grid * interval.denominator * 10 ^ (-grid).toNat := by
    rw [zpow_eq_div (by norm_num) grid]
    field_simp
  simp only [Holds, onGrid, Nat.pow_eq]
  push_cast
  rw [scaled, mul_le_mul_iff_left₀ factor, mul_le_mul_iff_left₀ factor,
    mul_lt_mul_iff_left₀ factor, mul_lt_mul_iff_left₀ factor]

theorem number_onGrid (grid : ℤ) : (interval.onGrid grid).number = interval.number / 10 ^ grid := by
  simp only [number, onGrid, Nat.pow_eq]
  push_cast
  rw [zpow_eq_div (by norm_num) grid]
  field_simp

theorem holds_iff (positive : 0 < interval.denominator) (number : ℚ) :
    interval.Holds number ↔
      if interval.closed then
        interval.low / interval.denominator ≤ number ∧ number ≤ interval.high / interval.denominator
      else interval.low / interval.denominator < number ∧
        number < interval.high / interval.denominator := by
  have isPositive : (0 : ℚ) < interval.denominator := by exact_mod_cast positive
  rw [Holds, div_le_iff₀ isPositive, le_div_iff₀ isPositive, div_lt_iff₀ isPositive,
    lt_div_iff₀ isPositive]

/-- Whatever is between two numbers in the interval is in it too. -/
theorem Holds.between {low number high : ℚ} (isLow : interval.Holds low)
    (isHigh : interval.Holds high) (above : low ≤ number) (below : number ≤ high) :
    interval.Holds number := by
  have notNegative : (0 : ℚ) ≤ interval.denominator := Nat.cast_nonneg _
  have scaledAbove := mul_le_mul_of_nonneg_right above notNegative
  have scaledBelow := mul_le_mul_of_nonneg_right below notNegative
  rw [Holds] at isLow isHigh ⊢
  by_cases closed : interval.closed = true
  · rw [if_pos closed] at isLow isHigh ⊢
    exact ⟨isLow.1.trans scaledAbove, scaledBelow.trans isHigh.2⟩
  · rw [if_neg closed] at isLow isHigh ⊢
    exact ⟨isLow.1.trans_le scaledAbove, scaledBelow.trans_lt isHigh.2⟩

/-- Whoever leaves the interval passes one of its ends. -/
theorem end_le_of_not_holds (positive : 0 < interval.denominator) {inside outside : ℚ}
    (isInside : interval.Holds inside) (isOutside : ¬interval.Holds outside) :
    |inside - interval.low / interval.denominator| ≤ |inside - outside| ∨
      |inside - interval.high / interval.denominator| ≤ |inside - outside| := by
  rw [holds_iff positive] at isInside isOutside
  have within : interval.low / interval.denominator ≤ inside ∧
      inside ≤ interval.high / interval.denominator := by
    split at isInside
    · exact isInside
    · exact ⟨isInside.1.le, isInside.2.le⟩
  have beyond : outside ≤ interval.low / interval.denominator ∨
      interval.high / interval.denominator ≤ outside := by
    by_contra between
    rw [not_or, not_le, not_le] at between
    apply isOutside
    split
    · exact ⟨between.1.le, between.2.le⟩
    · exact between
  rcases beyond with below | above
  · left
    rw [abs_of_nonneg (by linarith), abs_of_nonneg (by linarith)]
    linarith
  · right
    rw [abs_of_nonpos (by linarith), abs_of_nonpos (by linarith)]
    linarith

section Around

variable {format : BinaryFormat} {significand : ℕ} {place : ℤ}

theorem denominator_around_pos (format : BinaryFormat) (significand : ℕ) (place : ℤ) :
    0 < (around format significand place).denominator :=
  Nat.two_pow_pos _

theorem unit_div_denominator (place : ℤ) :
    ((2 ^ (place - 2).toNat : ℕ) : ℚ) / (2 ^ (-(place - 2)).toNat : ℕ) = 2 ^ place / 4 := by
  push_cast
  rw [← zpow_eq_div two_ne_zero, zpow_sub₀ two_ne_zero]
  norm_num

theorem number_around (format : BinaryFormat) (significand : ℕ) (place : ℤ) :
    (around format significand place).number = significand * 2 ^ place := by
  have unit := unit_div_denominator place
  simp only [number, around, Nat.pow_eq]
  rw [Nat.cast_mul, mul_div_assoc, unit]
  push_cast
  ring

/-- The ends of the interval around a value, as a whole number of halves or quarters of a step. -/
inductive IsEnd (format : BinaryFormat) : (significand : ℕ) → (place : ℤ) → ℕ → ℤ → Prop
  | high (significand : ℕ) (place : ℤ) :
      IsEnd format significand place (2 * significand + 1) (place - 1)
  | low {significand : ℕ} (positive : 0 < significand) (place : ℤ) :
      IsEnd format significand place (2 * significand - 1) (place - 1)
  /-- Below a power of two the steps are half as long. -/
  | narrow {place : ℤ} (above : format.lowestExponent < place) :
      IsEnd format format.exponentUnit place (4 * format.exponentUnit - 1) (place - 2)

theorem high_around (significand : ℕ) (place : ℤ) :
    ((around format significand place).high : ℚ) / (around format significand place).denominator =
      ((2 * significand + 1 : ℕ) : ℚ) * 2 ^ (place - 1) := by
  have unit := unit_div_denominator place
  simp only [around, Nat.pow_eq]
  rw [Nat.cast_mul, mul_div_assoc, unit, zpow_sub₀ two_ne_zero]
  push_cast
  ring

theorem low_around (positive : 0 < significand) (place : ℤ) :
    ((around format significand place).low : ℚ) / (around format significand place).denominator =
      if significand = format.exponentUnit ∧ format.lowestExponent < place then
        ((4 * significand - 1 : ℕ) : ℚ) * 2 ^ (place - 2)
      else ((2 * significand - 1 : ℕ) : ℚ) * 2 ^ (place - 1) := by
  have unit := unit_div_denominator place
  simp only [around, Nat.pow_eq]
  rw [Nat.cast_mul, mul_div_assoc, unit, zpow_sub₀ two_ne_zero, zpow_sub₀ two_ne_zero]
  split
  · rw [Nat.cast_sub (by omega)]
    push_cast
    ring
  · rw [Nat.cast_sub (by omega), Nat.cast_sub (by omega)]
    push_cast
    ring

namespace IsEnd

variable {count : ℕ} {half : ℤ}

theorem odd (isEnd : IsEnd format significand place count half) : count % 2 = 1 := by
  have unit := format.exponentUnit_pos
  cases isEnd <;> omega

theorem short (isEnd : IsEnd format significand place count half)
    (canonical : format.Canonical significand place) : count < 4 * format.exponentUnit := by
  have unit := format.exponentUnit_pos
  have short := canonical.short
  cases isEnd <;> omega

theorem above (isEnd : IsEnd format significand place count half)
    (canonical : format.Canonical significand place) : format.lowestExponent - 1 ≤ half := by
  have above := canonical.above
  cases isEnd <;> omega

/-- An end is an odd multiple of its distance from the value. -/
theorem distance (isEnd : IsEnd format significand place count half) :
    |(count : ℚ) * 2 ^ half - significand * 2 ^ place| = 2 ^ half := by
  have step : (0 : ℚ) < 2 ^ half := by positivity
  have difference : (count : ℚ) * 2 ^ half - significand * 2 ^ place = 2 ^ half ∨
      (count : ℚ) * 2 ^ half - significand * 2 ^ place = -2 ^ half := by
    cases isEnd with
    | high =>
        left
        rw [zpow_sub₀ two_ne_zero]
        push_cast
        ring
    | low positive =>
        right
        rw [Nat.cast_sub (by omega), zpow_sub₀ two_ne_zero]
        push_cast
        ring
    | narrow above =>
        have unit := format.exponentUnit_pos
        right
        rw [Nat.cast_sub (by omega), zpow_sub₀ two_ne_zero]
        push_cast
        ring
  rwa [abs_eq step.le]

end IsEnd

/-- A number that leaves the interval is as far away as an end at least. -/
theorem exists_isEnd_of_not_holds (positive : 0 < significand) {inside outside : ℚ}
    (isInside : (around format significand place).Holds inside)
    (isOutside : ¬(around format significand place).Holds outside) :
    ∃ (count : ℕ) (half : ℤ), IsEnd format significand place count half ∧
      |inside - count * 2 ^ half| ≤ |inside - outside| := by
  rcases end_le_of_not_holds (denominator_around_pos _ _ _) isInside isOutside with low | high
  · rw [low_around positive] at low
    split at low
    · next narrow =>
      rcases narrow with ⟨rfl, above⟩
      exact ⟨_, _, .narrow above, low⟩
    · exact ⟨_, _, .low positive place, low⟩
  · rw [high_around] at high
    exact ⟨_, _, .high significand place, high⟩

theorem high_around_eq (format : BinaryFormat) (significand : ℕ) (place : ℤ) :
    ((around format significand place).high : ℚ) / (around format significand place).denominator =
      (significand + 1 / 2) * 2 ^ place := by
  rw [high_around, zpow_sub₀ two_ne_zero]
  push_cast
  ring

theorem low_around_eq (positive : 0 < significand) (place : ℤ) :
    ((around format significand place).low : ℚ) / (around format significand place).denominator =
      (if significand = format.exponentUnit ∧ format.lowestExponent < place then
        (significand : ℚ) - 1 / 4 else significand - 1 / 2) * 2 ^ place := by
  rw [low_around positive, zpow_sub₀ two_ne_zero, zpow_sub₀ two_ne_zero]
  split
  · rw [Nat.cast_sub (by omega)]
    push_cast
    ring
  · rw [Nat.cast_sub (by omega)]
    push_cast
    ring

/-- A number in the interval, measured in steps. -/
theorem steps_of_holds (positive : 0 < significand) {number : ℚ}
    (isInside : (around format significand place).Holds number) :
    ((significand : ℚ) - 1 / 2 ≤ number / 2 ^ place ∧
        number / 2 ^ place ≤ significand + 1 / 2) ∧
      (significand = format.exponentUnit ∧ format.lowestExponent < place →
        (significand : ℚ) - 1 / 4 ≤ number / 2 ^ place) ∧
      (significand % 2 = 1 →
        (significand : ℚ) - 1 / 2 < number / 2 ^ place ∧
          number / 2 ^ place < significand + 1 / 2) := by
  have step : (0 : ℚ) < 2 ^ place := by positivity
  rw [holds_iff (denominator_around_pos _ _ _), low_around_eq positive, high_around_eq,
    ← le_div_iff₀ step, ← div_le_iff₀ step, ← lt_div_iff₀ step, ← div_lt_iff₀ step] at isInside
  generalize number / 2 ^ place = count at isInside ⊢
  have half : (significand : ℚ) - 1 / 2 ≤
      if significand = format.exponentUnit ∧ format.lowestExponent < place then
        (significand : ℚ) - 1 / 4 else significand - 1 / 2 := by
    split <;> linarith
  split at isInside
  · next closed =>
    have even : significand % 2 = 0 := by simpa [around] using closed
    refine ⟨⟨half.trans isInside.1, isInside.2⟩, fun narrow => ?_, fun odd => by omega⟩
    rw [if_pos narrow] at isInside
    exact isInside.1
  · refine ⟨⟨half.trans isInside.1.le, isInside.2.le⟩, fun narrow => ?_,
      fun _ => ⟨half.trans_lt isInside.1, isInside.2⟩⟩
    rw [if_pos narrow] at isInside
    exact isInside.1.le

/-- Less than a quarter of a step away from the value everything is in the interval. -/
theorem holds_of_close (positive : 0 < significand) {number : ℚ}
    (close : |number - significand * 2 ^ place| < 2 ^ place / 4) :
    (around format significand place).Holds number := by
  have step : (0 : ℚ) < 2 ^ place := by positivity
  have quarter : (if significand = format.exponentUnit ∧ format.lowestExponent < place then
      (significand : ℚ) - 1 / 4 else significand - 1 / 2) * 2 ^ place ≤
        (significand - 1 / 4) * 2 ^ place := by
    apply mul_le_mul_of_nonneg_right _ step.le
    split <;> linarith
  rw [abs_lt] at close
  have within : (if significand = format.exponentUnit ∧ format.lowestExponent < place then
      (significand : ℚ) - 1 / 4 else significand - 1 / 2) * 2 ^ place < number ∧
        number < (significand + 1 / 2) * 2 ^ place := by
    constructor <;> linarith
  rw [holds_iff (denominator_around_pos _ _ _), low_around_eq positive, high_around_eq]
  split
  · exact ⟨within.1.le, within.2.le⟩
  · exact within

/-- A number in the interval is as near to the value as the nearest. -/
theorem isNearest_of_holds (positive : 0 < significand) {number : ℚ}
    (isInside : (around format significand place).Holds number) :
    IsNearest (number / 2 ^ place) significand := by
  rcases steps_of_holds positive isInside with ⟨⟨low, high⟩, -, strict⟩
  refine ⟨?_, fun tie => ?_⟩
  · rw [abs_le]
    constructor <;> linarith
  · by_contra odd
    rcases strict (by omega) with ⟨lowStrict, highStrict⟩
    apply absurd tie
    apply ne_of_lt
    rw [abs_lt]
    constructor <;> linarith

/-- Every number in the interval around a value is converted to that value. -/
theorem nearest_of_holds (positive : 0 < significand)
    (canonical : format.Canonical significand place) {mantissa : ℕ} {exponent : ℤ}
    (some : 0 < mantissa)
    (isInside : (around format significand place).Holds (mantissa * 2 ^ exponent)) :
    format.nearest mantissa exponent = format.magnitudeBits significand place := by
  have step : (0 : ℚ) < 2 ^ place := by positivity
  have isNearest := isNearest_of_holds positive isInside
  by_cases full : place = format.lowestExponent ∨
      (2 : ℚ) ^ (format.fractionBits + place) ≤ mantissa * 2 ^ exponent
  · exact BinaryFormat.nearest_eq some canonical isNearest full
  · -- Only the lower part of the interval around a power of two is left.
    rw [not_or, not_le] at full
    rcases full with ⟨notLowest, below⟩
    have count : (mantissa : ℚ) * 2 ^ exponent / 2 ^ place < format.exponentUnit := by
      rwa [div_lt_iff₀ step, BinaryFormat.exponentUnit_eq, ← zpow_add₀ two_ne_zero]
    rcases steps_of_holds positive isInside with ⟨⟨low, -⟩, lowNarrow, -⟩
    have long : format.exponentUnit ≤ significand := canonical.full.resolve_left notLowest
    have same : significand = format.exponentUnit := by
      refine Nat.le_antisymm (Nat.lt_succ_iff.1 ?_) long
      have order : (significand : ℚ) < (format.exponentUnit + 1 : ℕ) := by
        push_cast
        linarith
      exact_mod_cast order
    subst same
    have above : format.lowestExponent < place := lt_of_le_of_ne canonical.above (Ne.symm notLowest)
    have lowNarrow := lowNarrow ⟨rfl, above⟩
    obtain ⟨lower, rfl⟩ : ∃ lower, place = lower + 1 := ⟨place - 1, by ring⟩
    have doubled : (mantissa : ℚ) * 2 ^ exponent / 2 ^ lower =
        2 * (mantissa * 2 ^ exponent / 2 ^ (lower + 1)) := by
      rw [zpow_add₀ two_ne_zero]
      field_simp
    refine BinaryFormat.nearest_eq_of_carry some canonical (by omega) ?_ ?_
    · rw [doubled]
      refine ⟨?_, fun _ => by omega⟩
      push_cast
      rw [abs_le]
      constructor <;> linarith
    · rwa [show (format.fractionBits : ℤ) + 1 + lower = format.fractionBits + (lower + 1) by ring]

end Around

end RoundingInterval

end PhysicsScene
