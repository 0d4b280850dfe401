import PhysicsScene.Proofs.Decimal.Interval

/-!
# The decimal that is found

The search for a short decimal starts at the grid of the leading digit and goes to finer ones. As
soon as a step of the grid is shorter than a quarter of a step of the format, the point below the
value is in its interval, so no decimal gets more than ten digits. What is found lies in the
interval and at most one step of its grid away from the value.
-/

namespace PhysicsScene

namespace RoundingInterval

variable {interval : RoundingInterval} {tie : Tie} {whole : ℕ}

theorem below_le_number (interval : RoundingInterval) :
    ((interval.middle / interval.denominator : ℕ) : ℚ) ≤ interval.number :=
  Nat.cast_div_le

theorem number_lt_above (positive : 0 < interval.denominator) :
    interval.number < (interval.middle / interval.denominator + 1 : ℕ) := by
  have isPositive : (0 : ℚ) < interval.denominator := by exact_mod_cast positive
  have above := Nat.lt_mul_div_succ interval.middle positive
  rw [Nat.mul_comm] at above
  rw [number, div_lt_iff₀ isPositive]
  exact_mod_cast above

/-- The whole number that is taken lies in the interval, at most one step from its middle. -/
theorem nearestWhole_spec (positive : 0 < interval.denominator)
    (found : interval.nearestWhole tie = some whole) :
    interval.Holds whole ∧ |whole - interval.number| ≤ 1 := by
  have low := below_le_number interval
  have high := number_lt_above positive
  push_cast at high
  have isEither : interval.contains whole = true ∧
      (whole = interval.middle / interval.denominator ∨
        whole = interval.middle / interval.denominator + 1) := by
    simp only [nearestWhole] at found
    grind
  refine ⟨(contains_eq_true_iff _).1 isEither.1, ?_⟩
  rw [abs_le]
  rcases isEither.2 with rfl | rfl
  · constructor <;> linarith
  · push_cast
    constructor <;> linarith

/-- If the interval reaches a step below its middle, then there is a whole number in it. -/
theorem exists_nearestWhole (tie : Tie) (positive : 0 < interval.denominator)
    (middle : interval.Holds interval.number) (wide : interval.Holds (interval.number - 1)) :
    ∃ whole, interval.nearestWhole tie = some whole := by
  have above := number_lt_above positive
  push_cast at above
  have below : interval.contains (interval.middle / interval.denominator) = true :=
    (contains_eq_true_iff _).2 (wide.between middle (by linarith) (below_le_number interval))
  simp only [nearestWhole, below]
  cases interval.contains (interval.middle / interval.denominator + 1) with
  | false => exact ⟨_, rfl⟩
  | true =>
      simp only
      split_ifs <;> exact ⟨_, rfl⟩

/-- The length of the digits of a positive number brackets it between powers of ten. -/
theorem exists_length_toDigits {value : ℕ} (positive : 0 < value) :
    ∃ shorter, (Nat.toDigits 10 value).length = shorter + 1 ∧
      10 ^ shorter ≤ value ∧ value < 10 ^ (shorter + 1) := by
  obtain ⟨shorter, length⟩ :=
    Nat.exists_eq_succ_of_ne_zero (Nat.length_toDigits_pos (b := 10) (n := value)).ne'
  refine ⟨shorter, length, ?_, ?_⟩
  · rcases Nat.eq_zero_or_pos shorter with rfl | longer
    · exact positive
    · by_contra less
      have bound := (Nat.length_toDigits_le_iff (by decide) longer).2 (Nat.lt_of_not_le less)
      omega
  · exact (Nat.length_toDigits_le_iff (by decide) (Nat.succ_pos _)).1 length.le

/-- A middle of at least one has as many digits in front of the point as its whole part has. -/
theorem number_bounds_of_one_le (positive : 0 < interval.denominator) {shorter : ℕ}
    (low : 10 ^ shorter ≤ interval.middle / interval.denominator)
    (high : interval.middle / interval.denominator < 10 ^ (shorter + 1)) :
    10 ^ (shorter : ℤ) ≤ interval.number ∧ interval.number < (10 : ℚ) ^ ((shorter : ℤ) + 1) := by
  have isLow : ((10 ^ shorter : ℕ) : ℚ) ≤ (interval.middle / interval.denominator : ℕ) := by
    exact_mod_cast low
  have isHigh : ((interval.middle / interval.denominator + 1 : ℕ) : ℚ) ≤
      (10 ^ (shorter + 1) : ℕ) := by
    exact_mod_cast high
  push_cast at isLow
  refine ⟨?_, ?_⟩
  · rw [zpow_natCast]
    exact isLow.trans (below_le_number interval)
  · exact_mod_cast (number_lt_above positive).trans_le isHigh

/-- Below one, the inverse of the middle tells how many zeros stand behind the point. -/
theorem number_bounds_of_lt_one (positive : 0 < interval.denominator)
    (notZero : 0 < interval.middle) {shorter : ℕ}
    (low : 10 ^ shorter ≤ (interval.denominator - 1) / interval.middle)
    (high : (interval.denominator - 1) / interval.middle < 10 ^ (shorter + 1)) :
    10 ^ (-((shorter + 1 : ℕ) : ℤ)) ≤ interval.number ∧
      interval.number < (10 : ℚ) ^ (-(shorter : ℤ)) := by
  have isPositive : (0 : ℚ) < interval.denominator := by exact_mod_cast positive
  have isNotZero : (0 : ℚ) < interval.middle := by exact_mod_cast notZero
  have isLow : 10 ^ shorter * interval.middle < interval.denominator := by
    have product := (Nat.le_div_iff_mul_le notZero).1 low
    omega
  have isHigh : interval.denominator ≤ 10 ^ (shorter + 1) * interval.middle := by
    have product := (Nat.div_lt_iff_lt_mul notZero).1 high
    omega
  have isLow : (10 : ℚ) ^ shorter * interval.middle < interval.denominator := by
    exact_mod_cast isLow
  have isHigh : (interval.denominator : ℚ) ≤ 10 ^ (shorter + 1) * interval.middle := by
    exact_mod_cast isHigh
  rw [zpow_neg, zpow_neg, zpow_natCast, zpow_natCast, number]
  refine ⟨?_, ?_⟩
  · rw [le_div_iff₀ isPositive, inv_mul_le_iff₀ (by positivity)]
    exact isHigh
  · rw [div_lt_iff₀ isPositive, lt_inv_mul_iff₀ (by positivity)]
    exact isLow

/-- The leading digit of the middle has the exponent that is computed. -/
theorem leadingExponent_spec (positive : 0 < interval.denominator) (notZero : 0 < interval.middle) :
    10 ^ interval.leadingExponent ≤ interval.number ∧
      interval.number < (10 : ℚ) ^ (interval.leadingExponent + 1) := by
  rw [leadingExponent]
  split
  · next atLeastOne =>
    rcases exists_length_toDigits (Nat.div_pos atLeastOne positive) with
      ⟨shorter, length, low, high⟩
    have exponent : ((shorter + 1 : ℕ) : ℤ) - 1 = shorter := by omega
    rw [length, exponent]
    exact number_bounds_of_one_le positive low high
  · next belowOne =>
    have one : 0 < (interval.denominator - 1) / interval.middle :=
      Nat.div_pos (by omega) notZero
    rcases exists_length_toDigits one with ⟨shorter, length, low, high⟩
    have exponent : -((shorter + 1 : ℕ) : ℤ) + 1 = -(shorter : ℤ) := by omega
    rw [length, exponent]
    exact number_bounds_of_lt_one positive notZero low high

end RoundingInterval

namespace Decimal

open RoundingInterval

/-- The number that a decimal stands for. -/
def number (decimal : Decimal) : ℚ :=
  decimal.digits * 10 ^ decimal.exponent

/-- Zeros that are trimmed off the digits go into the exponent. -/
theorem exists_trimmed_eq (limit digits : ℕ) (exponent : ℤ) :
    ∃ dropped : ℕ, (trimmed limit ⟨digits, exponent⟩).exponent = exponent + dropped ∧
      digits = (trimmed limit ⟨digits, exponent⟩).digits * 10 ^ dropped := by
  induction limit generalizing digits exponent with
  | zero => exact ⟨0, by simp [trimmed], by simp [trimmed]⟩
  | succ limit ih =>
      rw [trimmed]
      split
      · next zero =>
        obtain ⟨dropped, isExponent, isDigits⟩ := ih (digits / 10) (exponent + 1)
        refine ⟨dropped + 1, ?_, ?_⟩
        · rw [isExponent]
          push_cast
          ring
        · rw [pow_succ, ← Nat.mul_assoc, ← isDigits]
          omega
      · exact ⟨0, by simp, by simp⟩

/-- The search ends at the latest on a grid with a whole number in the interval. -/
theorem exists_search_eq {interval : RoundingInterval} {tie : Tie} {count offset : ℕ} {grid : ℤ}
    (inReach : offset < count)
    (found : ∃ whole, (interval.onGrid (grid - offset)).nearestWhole tie = some whole) :
    ∃ whole last, grid - offset ≤ last ∧ (interval.onGrid last).nearestWhole tie = some whole ∧
      search tie interval count grid = trimmed 17 ⟨whole, last⟩ := by
  induction count generalizing offset grid with
  | zero => omega
  | succ count ih =>
      rw [search]
      split
      · next whole here => exact ⟨whole, grid, by omega, here, rfl⟩
      · next none =>
        cases offset with
        | zero =>
            rcases found with ⟨whole, found⟩
            rw [Int.natCast_zero, Int.sub_zero, none] at found
            cases found
        | succ offset =>
            have shifted : grid - (offset + 1 : ℕ) = grid - 1 - offset := by
              push_cast
              ring
            rw [shifted] at found ⊢
            exact ih (by omega) found

variable {significand : ℕ} {place : ℤ}

/-- A decimal in the interval around a single-precision magnitude that is found by the search. -/
structure IsShort (significand : ℕ) (place : ℤ) (decimal : Decimal) : Prop where
  inside : (around .single significand place).Holds decimal.number
  near : |decimal.number - significand * 2 ^ place| ≤ 10 ^ decimal.exponent
  short : decimal.digits ≤ 10 ^ 10
  above : -54 ≤ decimal.exponent

/-- Trimming changes neither the number nor that it is near. -/
theorem isShort_trimmed (limit : ℕ) {whole : ℕ} {last : ℤ}
    (inside : (around .single significand place).Holds (whole * 10 ^ last))
    (near : |whole * 10 ^ last - (significand : ℚ) * 2 ^ place| ≤ 10 ^ last)
    (short : whole ≤ 10 ^ 10) (above : -54 ≤ last) :
    IsShort significand place (trimmed limit ⟨whole, last⟩) := by
  rcases exists_trimmed_eq limit whole last with ⟨dropped, isExponent, isDigits⟩
  have same : (trimmed limit ⟨whole, last⟩).number = whole * 10 ^ last := by
    rw [number, isExponent, zpow_add₀ (by norm_num), zpow_natCast]
    conv_rhs => rw [isDigits]
    push_cast
    ring
  have notFiner : last ≤ (trimmed limit ⟨whole, last⟩).exponent := by omega
  refine ⟨?_, ?_, ?_, by omega⟩
  · rwa [same]
  · rw [same]
    exact near.trans (zpow_le_zpow_right₀ (by norm_num) notFiner)
  · refine le_trans ?_ short
    conv_rhs => rw [isDigits]
    exact Nat.le_mul_of_pos_right _ (by positivity)

theorem denominator_onGrid_pos (grid : ℤ) :
    0 < ((around .single significand place).onGrid grid).denominator :=
  Nat.mul_pos (denominator_around_pos .single significand place) (Nat.pow_pos (by decide))

/-- Eight digits behind the leading one are enough. -/
theorem exists_nearestWhole_fine (tie : Tie) (positive : 0 < significand)
    (canonical : BinaryFormat.single.Canonical significand place) {lead : ℤ}
    (leading : 10 ^ lead ≤ (significand : ℚ) * 2 ^ place) :
    ∃ whole, ((around .single significand place).onGrid (lead - (8 : ℕ))).nearestWhole tie =
      some whole := by
  have step : (0 : ℚ) < 2 ^ place := by positivity
  have gridStep : (0 : ℚ) < 10 ^ (lead - (8 : ℕ)) := by positivity
  have fine : (10 : ℚ) ^ (lead - (8 : ℕ)) < 2 ^ place / 4 := by
    have size : (significand : ℚ) < 2 ^ 24 := by exact_mod_cast canonical.short
    have scaled := leading.trans_lt (mul_lt_mul_of_pos_right size step)
    rw [zpow_sub₀ (by norm_num)]
    norm_num at scaled ⊢
    linarith
  apply exists_nearestWhole
  · exact denominator_onGrid_pos _
  · rw [holds_onGrid, number_onGrid, number_around, div_mul_cancel₀ _ gridStep.ne']
    apply holds_of_close positive
    rw [sub_self, abs_zero]
    positivity
  · rw [holds_onGrid, number_onGrid, number_around, sub_mul, one_mul,
      div_mul_cancel₀ _ gridStep.ne']
    apply holds_of_close positive
    rw [sub_sub_cancel_left, abs_neg, abs_of_pos gridStep]
    exact fine

/-- What is found on a grid lies in the interval, at most one step of the grid from the value. -/
theorem nearestWhole_onGrid_spec {tie : Tie} {whole : ℕ} {grid : ℤ}
    (found : ((around .single significand place).onGrid grid).nearestWhole tie = some whole) :
    (around .single significand place).Holds (whole * 10 ^ grid) ∧
      |whole * 10 ^ grid - (significand : ℚ) * 2 ^ place| ≤ 10 ^ grid := by
  have gridStep : (0 : ℚ) < 10 ^ grid := by positivity
  have spec := nearestWhole_spec (denominator_onGrid_pos grid) found
  rw [holds_onGrid, number_onGrid, number_around] at spec
  refine ⟨spec.1, ?_⟩
  have scaled : (whole : ℚ) * 10 ^ grid - significand * 2 ^ place =
      (whole - significand * 2 ^ place / 10 ^ grid) * 10 ^ grid := by
    rw [sub_mul, div_mul_cancel₀ _ gridStep.ne']
  rw [scaled, abs_mul, abs_of_pos gridStep]
  exact mul_le_of_le_one_left gridStep.le spec.2

/-- On a grid at most nine digits below the next power of ten, few digits are found. -/
theorem whole_le_of_near {whole : ℕ} {number : ℚ} {lead grid : ℤ} (below : number < 10 ^ (lead + 1))
    (coarse : lead - 8 ≤ grid) (near : |whole * 10 ^ grid - number| ≤ 10 ^ grid) :
    whole ≤ 10 ^ 10 := by
  have gridStep : (0 : ℚ) < 10 ^ grid := by positivity
  have reach : (10 : ℚ) ^ (lead + 1) ≤ 10 ^ (9 : ℤ) * 10 ^ grid := by
    rw [← zpow_add₀ (by norm_num)]
    exact zpow_le_zpow_right₀ (by norm_num) (by omega)
  have bound : (whole : ℚ) * 10 ^ grid ≤ (10 ^ 9 + 1) * 10 ^ grid := by
    have isNine : (10 : ℚ) ^ (9 : ℤ) = 10 ^ 9 := rfl
    rw [isNine] at reach
    linarith [(abs_le.1 near).2]
  have isShort := le_of_mul_le_mul_right bound gridStep
  have asNat : whole ≤ 10 ^ 9 + 1 := by exact_mod_cast isShort
  exact asNat.trans (by decide)

/-- The leading digit of the smallest magnitude has the exponent -45. -/
theorem lt_leadingExponent (positive : 0 < significand)
    (canonical : BinaryFormat.single.Canonical significand place) {lead : ℤ}
    (below : (significand : ℚ) * 2 ^ place < 10 ^ (lead + 1)) : -46 < lead := by
  have one : (1 : ℚ) ≤ significand := by exact_mod_cast positive
  have power : (10 : ℚ) ^ (-45 : ℤ) < 10 ^ (lead + 1) := by
    calc (10 : ℚ) ^ (-45 : ℤ) ≤ 2 ^ (-149 : ℤ) := by norm_num
      _ ≤ 2 ^ place := zpow_le_zpow_right₀ (by norm_num) canonical.above
      _ ≤ significand * 2 ^ place := le_mul_of_one_le_left (by positivity) one
      _ < 10 ^ (lead + 1) := below
  have order := (zpow_lt_zpow_iff_right₀ (by norm_num : (1 : ℚ) < 10)).1 power
  omega

/-- The decimal that is written for a single-precision magnitude is a short one. -/
theorem isShort_shortest (tie : Tie) (positive : 0 < significand)
    (canonical : BinaryFormat.single.Canonical significand place) :
    IsShort significand place (shortest tie .single significand place) := by
  have middle : 0 < (around .single significand place).middle :=
    Nat.mul_pos (Nat.mul_pos (by decide) positive) (Nat.two_pow_pos _)
  have leading := leadingExponent_spec (denominator_around_pos .single significand place) middle
  rw [number_around] at leading
  rw [shortest]
  generalize (around .single significand place).leadingExponent = lead at leading
  have found := exists_nearestWhole_fine tie positive canonical leading.1
  rcases exists_search_eq (by decide : 8 < 17) found with ⟨whole, last, notFiner, isNearest, result⟩
  rcases nearestWhole_onGrid_spec isNearest with ⟨inside, near⟩
  have lowest := lt_leadingExponent positive canonical leading.2
  push_cast at notFiner
  rw [result]
  exact isShort_trimmed 17 inside near (whole_le_of_near leading.2 notFiner near) (by omega)

end Decimal

end PhysicsScene
