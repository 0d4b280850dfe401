import PhysicsScene.Proofs.Number.Whole

/-!
# Correct rounding

What an exact number becomes in a format is said here without the conversion. The magnitude is
counted in steps of `2 ^ place`, where `place` is the one at which it has a full significand, or the
lowest one of the format; the nearest whole number of steps is taken (`BinaryFormat.IsCount`). The
sign is kept, and what comes to the limit of the format or beyond is infinite
(`BinaryFormat.Rounds`). That leaves one result for each number, and it is the one that the
conversion of this library finds (`BinaryFormat.rounds_pattern`).
-/

namespace PhysicsScene

namespace IsNearest

variable {exact : ℚ} {whole bound : ℕ} (isNearest : IsNearest exact whole)

include isNearest

theorem le (below : exact < bound) : whole ≤ bound := by
  have close := (abs_le.1 isNearest.1).2
  have less : (whole : ℚ) < ((bound + 1 : ℕ) : ℚ) := by
    push_cast
    linarith
  exact Nat.lt_succ_iff.1 (by exact_mod_cast less)

theorem ge (above : bound ≤ exact) : bound ≤ whole := by
  have close := (abs_le.1 isNearest.1).1
  have less : (bound : ℚ) < ((whole + 1 : ℕ) : ℚ) := by
    push_cast
    linarith
  exact Nat.lt_succ_iff.1 (by exact_mod_cast less)

end IsNearest

namespace BinaryFormat

/-- The power of two from which on a format has no finite values. -/
def limit (format : BinaryFormat) : ℚ := 2 ^ 2 ^ (format.exponentBits - 1)

/-- The whole number of steps of a place to which a magnitude is rounded. -/
structure IsCount (format : BinaryFormat) (magnitude : ℚ) (count : ℕ) (place : ℤ) : Prop where
  above : format.lowestExponent ≤ place
  below : magnitude < 2 ^ (format.fractionBits + 1 + place)
  /-- The place is the lowest one, or the magnitude has a full significand there. -/
  full : place = format.lowestExponent ∨ 2 ^ (format.fractionBits + place) ≤ magnitude
  nearest : IsNearest (magnitude / 2 ^ place) count

/-- What a number with a sign and a magnitude is rounded to. -/
inductive Rounds (format : BinaryFormat) (negative : Bool) (magnitude : ℚ) : BinaryValue → Prop
  | finite {count significand : ℕ} {place last : ℤ} (isCount : format.IsCount magnitude count place)
      (below : count * 2 ^ place < format.limit)
      (same : (significand : ℚ) * 2 ^ last = count * 2 ^ place) :
      Rounds format negative magnitude (.finite negative significand last)
  | infinite {count : ℕ} {place : ℤ} (isCount : format.IsCount magnitude count place)
      (above : format.limit ≤ count * 2 ^ place) :
      Rounds format negative magnitude (.infinite negative)

variable {format : BinaryFormat} {magnitude : ℚ} {negative : Bool}

theorem zpow_fractionBits (format : BinaryFormat) (place : ℤ) :
    (2 : ℚ) ^ (format.fractionBits + place) = format.exponentUnit * 2 ^ place := by
  rw [zpow_add₀ two_ne_zero, ← exponentUnit_eq]

theorem zpow_fractionBits_succ (format : BinaryFormat) (place : ℤ) :
    (2 : ℚ) ^ (format.fractionBits + 1 + place) = (2 * format.exponentUnit : ℕ) * 2 ^ place := by
  rw [zpow_add₀ two_ne_zero, zpow_add₀ two_ne_zero, zpow_one, ← exponentUnit_eq]
  push_cast
  ring

section Unique

theorem IsCount.place_le {count other : ℕ} {place otherPlace : ℤ}
    (isCount : format.IsCount magnitude count place)
    (isOther : format.IsCount magnitude other otherPlace) : place ≤ otherPlace := by
  rcases isCount.full with lowest | full
  · exact lowest ▸ isOther.above
  · have power := (zpow_lt_zpow_iff_right₀ (by norm_num : (1 : ℚ) < 2)).1
      (full.trans_lt isOther.below)
    omega

/-- A magnitude is rounded at one place, to one number of steps. -/
theorem IsCount.unique {count other : ℕ} {place otherPlace : ℤ}
    (isCount : format.IsCount magnitude count place)
    (isOther : format.IsCount magnitude other otherPlace) : count = other ∧ place = otherPlace := by
  have samePlace := le_antisymm (isCount.place_le isOther) (isOther.place_le isCount)
  subst samePlace
  exact ⟨isCount.nearest.unique isOther.nearest, rfl⟩

/-- A number has one canonical pair. -/
theorem Canonical.unique {significand other : ℕ} {place otherPlace : ℤ}
    (canonical : format.Canonical significand place)
    (isOther : format.Canonical other otherPlace)
    (same : (significand : ℚ) * 2 ^ place = other * 2 ^ otherPlace) :
    significand = other ∧ place = otherPlace := by
  have unit := format.exponentUnit_pos
  have power : ∀ place : ℤ, (2 : ℚ) ^ place ≠ 0 := fun place => zpow_ne_zero _ two_ne_zero
  rcases Nat.eq_zero_or_pos significand with rfl | positive
  · have zero : other = 0 := by simpa [power] using same.symm
    subst zero
    refine ⟨rfl, ?_⟩
    rcases canonical.full with lowest | full
    · rcases isOther.full with otherLowest | otherFull
      · rw [lowest, otherLowest]
      · omega
    · omega
  · -- The conversion of the number gives the pattern of either pair.
    have bits : format.magnitudeBits significand place = format.magnitudeBits other otherPlace := by
      rw [← nearest_of_canonical positive canonical rfl, nearest_of_canonical positive isOther same]
    have isValue := value_magnitudeBits canonical false
    rw [bits, value_magnitudeBits isOther false] at isValue
    cases isValue
    exact ⟨rfl, rfl⟩

/-- A rounded number is the same number however it is written. -/
theorem Rounds.finite_unique {sign otherSign : Bool} {significand other : ℕ} {place otherPlace : ℤ}
    (rounds : format.Rounds negative magnitude (.finite sign significand place))
    (isOther : format.Rounds negative magnitude (.finite otherSign other otherPlace)) :
    sign = otherSign ∧ (significand : ℚ) * 2 ^ place = other * 2 ^ otherPlace := by
  rcases rounds with ⟨isCount, -, same⟩
  rcases isOther with ⟨otherCount, -, otherSame⟩
  rcases isCount.unique otherCount with ⟨rfl, rfl⟩
  exact ⟨rfl, same.trans otherSame.symm⟩

theorem eq_of_infinite {bits : ℕ} (bounded : bits < 2 * format.signBit)
    (isValue : format.value bits = .infinite negative) :
    bits = format.infinityBits + if negative then format.signBit else 0 := by
  obtain ⟨fraction, biased, sign, short, range, rfl⟩ := exists_fields bounded
  rw [value_fields short range] at isValue
  split at isValue
  · next highest =>
    split at isValue
    · next zero =>
      cases isValue
      subst highest zero
      rw [infinityBits, signBit_eq]
      cases negative <;> simp [Nat.mul_add, Nat.mul_comm]
    · cases isValue
  · split at isValue <;> cases isValue

/-- A number is rounded to one pattern. -/
theorem Rounds.unique (wide : 2 ≤ format.highestField) {bits other : ℕ}
    (bounded : bits < 2 * format.signBit) (otherBounded : other < 2 * format.signBit)
    (rounds : format.Rounds negative magnitude (format.value bits))
    (isOther : format.Rounds negative magnitude (format.value other)) : bits = other := by
  generalize isValue : format.value bits = value at rounds
  generalize otherValue : format.value other = result at isOther
  cases rounds with
  | finite isCount below same =>
      rcases canonical_of_value wide bounded isValue with ⟨canonical, isBits⟩
      cases isOther with
      | finite otherCount _ otherSame =>
          rcases canonical_of_value wide otherBounded otherValue with ⟨otherCanonical, otherBits⟩
          rcases isCount.unique otherCount with ⟨rfl, rfl⟩
          rcases canonical.unique otherCanonical (same.trans otherSame.symm) with ⟨rfl, rfl⟩
          rw [isBits, otherBits]
      | infinite otherCount above =>
          rcases isCount.unique otherCount with ⟨rfl, rfl⟩
          exact absurd below (not_lt_of_ge above)
  | infinite isCount above =>
      cases isOther with
      | finite otherCount below _ =>
          rcases isCount.unique otherCount with ⟨rfl, rfl⟩
          exact absurd below (not_lt_of_ge above)
      | infinite _ _ => rw [eq_of_infinite bounded isValue, eq_of_infinite otherBounded otherValue]

end Unique

section Pattern

theorem limit_eq (wide : 1 ≤ format.exponentBits) :
    format.limit =
      format.exponentUnit * (2 : ℚ) ^ (format.lowestExponent + format.highestField - 1) := by
  obtain ⟨bits, isBits⟩ := Nat.exists_eq_add_of_le' wide
  have half : Nat.pow 2 (bits + 1) = 2 * Nat.pow 2 bits := Nat.pow_succ'
  have place : (format.lowestExponent + format.highestField - 1 : ℤ) =
      (2 ^ bits : ℕ) - format.fractionBits := by
    have positive : 0 < 2 ^ bits := Nat.two_pow_pos bits
    simp only [lowestExponent, highestField, isBits, Nat.add_sub_cancel, half, Nat.pow_eq]
    omega
  rw [limit, isBits, Nat.add_sub_cancel, place, exponentUnit_eq, ← zpow_add₀ two_ne_zero,
    add_sub_cancel, zpow_natCast]

theorem Canonical.lt_limit (wide : 1 ≤ format.exponentBits) {significand : ℕ} {place : ℤ}
    (canonical : format.Canonical significand place) :
    (significand : ℚ) * 2 ^ place < format.limit := by
  have step : (0 : ℚ) < 2 ^ place := by positivity
  have short : (significand : ℚ) < 2 * format.exponentUnit := by exact_mod_cast canonical.short
  have room := canonical.below
  rw [limit_eq wide]
  calc (significand : ℚ) * 2 ^ place < 2 * format.exponentUnit * 2 ^ place :=
        mul_lt_mul_of_pos_right short step
    _ = format.exponentUnit * 2 ^ (place + 1) := by
        rw [zpow_add_one₀ two_ne_zero]
        ring
    _ ≤ format.exponentUnit * 2 ^ (format.lowestExponent + format.highestField - 1) := by
        apply mul_le_mul_of_nonneg_left _ (Nat.cast_nonneg _)
        exact zpow_le_zpow_right₀ (by norm_num) (by omega)

theorem Canonical.rounds (wide : 1 ≤ format.exponentBits) {significand : ℕ} {place : ℤ}
    (canonical : format.Canonical significand place) (negative : Bool) :
    format.Rounds negative (significand * 2 ^ place) (.finite negative significand place) := by
  have step : (0 : ℚ) < 2 ^ place := by positivity
  refine .finite ⟨canonical.above, ?_, ?_, ?_⟩ (canonical.lt_limit wide) rfl
  · rw [zpow_fractionBits_succ]
    exact mul_lt_mul_of_pos_right (by exact_mod_cast canonical.short) step
  · refine canonical.full.imp id fun full => ?_
    rw [zpow_fractionBits]
    exact mul_le_mul_of_nonneg_right (by exact_mod_cast full) step.le
  · rw [mul_div_cancel_right₀ _ step.ne']
    exact isNearest_natCast significand

/-- The steps at the last place of a number are those in which it is rounded. -/
theorem isCount_lastPlace {mantissa kept : ℕ} (positive : 0 < mantissa) {exponent : ℤ}
    (isNearest :
      IsNearest (mantissa * 2 ^ exponent / 2 ^ format.lastPlace mantissa exponent) kept) :
    format.IsCount (mantissa * 2 ^ exponent) kept (format.lastPlace mantissa exponent) := by
  have bounds := log2_bounds positive exponent
  refine ⟨Int.le_max_left _ _, bounds.2.trans_le ?_, ?_, isNearest⟩
  · apply zpow_le_zpow_right₀ (by norm_num)
    rw [lastPlace]
    omega
  · rcases Int.le_total (exponent + Nat.log2 mantissa - format.fractionBits) format.lowestExponent
      with low | high
    · exact .inl (Int.max_eq_left low)
    · right
      refine le_of_eq_of_le ?_ bounds.1
      rw [lastPlace, Int.max_eq_right high]
      congr 1
      omega

/-- A rounded number of steps is at most one more than any significand. -/
theorem IsCount.le {count : ℕ} {place : ℤ} (isCount : format.IsCount magnitude count place) :
    count ≤ 2 * format.exponentUnit := by
  have below := isCount.below
  rw [zpow_fractionBits_succ, ← div_lt_iff₀ (by positivity)] at below
  exact isCount.nearest.le below

theorem IsCount.le_two_mul {count : ℕ} {place : ℤ} (isCount : format.IsCount magnitude count place)
    (notNegative : 0 ≤ magnitude) : count * 2 ^ place ≤ 2 * magnitude := by
  have step : (0 : ℚ) < 2 ^ place := by positivity
  have ratio : 0 ≤ magnitude / 2 ^ place := div_nonneg notNegative step.le
  have close := (abs_le.1 isCount.nearest.1).2
  have bound : (count : ℚ) ≤ 2 * (magnitude / 2 ^ place) := by
    rcases Nat.eq_zero_or_pos count with rfl | positive
    · rw [Nat.cast_zero]
      linarith
    · have one : (1 : ℚ) ≤ count := by exact_mod_cast positive
      linarith
  rwa [← mul_div_assoc, le_div_iff₀ step] at bound

theorem IsCount.full_count {count : ℕ} {place : ℤ}
    (isCount : format.IsCount magnitude count place) :
    place = format.lowestExponent ∨ format.exponentUnit ≤ count := by
  refine isCount.full.imp id fun full => ?_
  rw [zpow_fractionBits, ← le_div_iff₀ (by positivity)] at full
  exact isCount.nearest.ge full

theorem value_infinityBits (negative : Bool) :
    format.value (format.infinityBits + if negative then format.signBit else 0) =
      .infinite negative := by
  have isBits : (format.infinityBits + if negative then format.signBit else 0) =
      0 + format.exponentUnit *
        (format.highestField + (format.highestField + 1) * negative.toNat) := by
    rw [infinityBits, signBit_eq]
    cases negative <;> simp [Nat.mul_add, Nat.mul_comm]
  rw [isBits, value_fields format.exponentUnit_pos (Nat.le_refl _), if_pos rfl, if_pos rfl]

section Count

variable {count : ℕ} {place : ℤ} (isCount : format.IsCount magnitude count place)
  (wide : 2 ≤ format.exponentBits) (negative : Bool)

include wide

theorem le_highestField : 3 ≤ format.highestField := by
  have four := Nat.pow_le_pow_right Nat.zero_lt_two wide
  rw [highestField, Nat.pow_eq]
  omega

include isCount

theorem rounds_of_canonical (canonical : format.Canonical count place) :
    format.Rounds negative magnitude
      (format.value (min format.infinityBits (format.magnitudeBits count place) +
        if negative then format.signBit else 0)) := by
  rw [min_eq_right (magnitudeBits_lt canonical).le, value_magnitudeBits canonical]
  exact .finite isCount (canonical.lt_limit (by omega)) rfl

/-- Steps that carry into one more bit are fewer steps of the next place. -/
theorem rounds_of_carry (carries : count = 2 * format.exponentUnit)
    (room : place + 3 ≤ format.lowestExponent + format.highestField) :
    format.Rounds negative magnitude
      (format.value (min format.infinityBits (format.magnitudeBits count place) +
        if negative then format.signBit else 0)) := by
  have unit := format.exponentUnit_pos
  have above := isCount.above
  have canonical : format.Canonical format.exponentUnit (place + 1) :=
    ⟨by omega, by omega, by omega, .inr (Nat.le_refl _)⟩
  have same : (format.exponentUnit : ℚ) * 2 ^ (place + 1) = count * 2 ^ place := by
    rw [carries, zpow_add_one₀ two_ne_zero]
    push_cast
    ring
  rw [carries, magnitudeBits_carry above, min_eq_right (magnitudeBits_lt canonical).le,
    value_magnitudeBits canonical]
  refine .finite isCount ?_ same
  rw [← same]
  exact canonical.lt_limit (by omega)

/-- Steps that come to the limit are infinitely many. -/
theorem rounds_of_large {extra : ℕ} (few : extra ≤ 1)
    (long : 2 ^ extra * format.exponentUnit ≤ count)
    (large : format.lowestExponent + format.highestField ≤ place + 1 + extra) :
    format.Rounds negative magnitude
      (format.value (min format.infinityBits (format.magnitudeBits count place) +
        if negative then format.signBit else 0)) := by
  have step : (0 : ℚ) < 2 ^ place := by positivity
  have bits : format.infinityBits ≤ format.magnitudeBits count place := by
    have fields : format.highestField * format.exponentUnit ≤
        ((place - format.lowestExponent).toNat + 2 ^ extra) * format.exponentUnit := by
      apply Nat.mul_le_mul_right
      have power : 1 + extra ≤ 2 ^ extra := by interval_cases extra <;> decide
      omega
    rw [infinityBits, magnitudeBits]
    rw [Nat.add_mul] at fields
    omega
  rw [min_eq_left bits, value_infinityBits]
  refine .infinite isCount ?_
  have longRat : (2 : ℚ) ^ extra * format.exponentUnit ≤ count := by exact_mod_cast long
  rw [limit_eq (by omega)]
  calc (format.exponentUnit : ℚ) * 2 ^ (format.lowestExponent + format.highestField - 1) ≤
        format.exponentUnit * 2 ^ (place + extra) := by
        apply mul_le_mul_of_nonneg_left _ (Nat.cast_nonneg _)
        exact zpow_le_zpow_right₀ (by norm_num) (by omega)
    _ = 2 ^ extra * format.exponentUnit * 2 ^ place := by
        rw [zpow_add₀ two_ne_zero, zpow_natCast]
        ring
    _ ≤ count * 2 ^ place := mul_le_mul_of_nonneg_right longRat step.le

/-- The pattern of a number of steps stands for what the magnitude is rounded to. -/
theorem rounds_of_isCount :
    format.Rounds negative magnitude
      (format.value (min format.infinityBits (format.magnitudeBits count place) +
        if negative then format.signBit else 0)) := by
  have fields := le_highestField wide
  have full := isCount.full_count
  rcases isCount.le.lt_or_eq with short | carries
  · rcases le_or_gt (place + 2) (format.lowestExponent + format.highestField) with room | large
    · exact rounds_of_canonical isCount wide negative ⟨short, isCount.above, room, full⟩
    · refine rounds_of_large isCount wide negative (Nat.zero_le 1) ?_ (by omega)
      rcases full with lowest | full
      · omega
      · simpa using full
  · rcases le_or_gt (place + 3) (format.lowestExponent + format.highestField) with room | large
    · exact rounds_of_carry isCount wide negative carries room
    · refine rounds_of_large isCount wide negative (Nat.le_refl 1) ?_ (by omega)
      rw [carries, pow_one]

end Count

theorem isCount_zero (format : BinaryFormat) : format.IsCount 0 0 format.lowestExponent :=
  ⟨Int.le_refl _, by positivity, .inl rfl, by simpa using isNearest_natCast 0⟩

/-- A conversion rounds correctly. -/
theorem rounds_pattern (format : BinaryFormat) (wide : 2 ≤ format.exponentBits) (negative : Bool)
    (mantissa : ℕ) (exponent : ℤ) :
    format.Rounds negative (mantissa * 2 ^ exponent)
      (format.value (format.pattern (.finite negative mantissa exponent))) := by
  rw [pattern]
  rcases Nat.eq_zero_or_pos mantissa with rfl | positive
  · have rounds := rounds_of_isCount format.isCount_zero wide negative
    rw [magnitudeBits_lowest, Nat.min_zero] at rounds
    simpa [nearest] using rounds
  · have isLast : format.lastPlace mantissa exponent = format.lastPlace mantissa exponent := rfl
    rcases exists_nearest_eq positive isLast with ⟨kept, isNearest, nearest⟩
    rw [nearest]
    exact rounds_of_isCount (isCount_lastPlace positive isNearest) wide negative

theorem pattern_lt {value : BinaryValue} (isNumber : value ≠ .nan) :
    format.pattern value < 2 * format.signBit := by
  rcases format.exists_pattern_eq isNumber with ⟨magnitude, bounded, pattern⟩
  have room := format.infinityBits_lt_signBit
  omega

variable {value : BinaryValue} (rounds : format.Rounds negative magnitude value)

include rounds

theorem Rounds.value_ne_nan : value ≠ .nan := by
  cases rounds with
  | finite isCount below same => nofun
  | infinite isCount above => nofun

/-- What does not come near the limit stays finite. -/
theorem Rounds.exists_finite (notNegative : 0 ≤ magnitude) (below : 2 * magnitude < format.limit) :
    ∃ significand place, value = .finite negative significand place := by
  cases rounds with
  | finite isCount below same => exact ⟨_, _, rfl⟩
  | infinite isCount above =>
      exact absurd below (not_lt_of_ge (above.trans (isCount.le_two_mul notNegative)))

end Pattern

end BinaryFormat

end PhysicsScene
