import PhysicsScene.Proofs.Number.Rounding

/-!
# Conversions round to the nearest

`BinaryFormat.nearest` counts the steps of the last place in an exact number and takes the nearest
whole number of them, the even one if two are equally near (`IsNearest`). A significand and a place
are canonical if a format has a pattern for them; patterns and canonical pairs correspond to each
other, so what a conversion makes of an exact number can be told from the steps around it.
-/

namespace PhysicsScene

open Float.Model (UnpackedFloat)

/-- A whole number is nearest to an exact one; of two that are equally near it is the even one. -/
def IsNearest (exact : ℚ) (whole : ℕ) : Prop :=
  |whole - exact| ≤ 1 / 2 ∧ (|whole - exact| = 1 / 2 → whole % 2 = 0)

theorem isNearest_natCast (whole : ℕ) : IsNearest whole whole := by
  simp [IsNearest]

theorem isNearest_roundedQuotient (numerator : ℕ) {denominator : ℕ} (positive : 0 < denominator) :
    IsNearest (numerator / denominator) (roundedQuotient numerator denominator) := by
  have isPositive : (0 : ℚ) < denominator := by exact_mod_cast positive
  have small := Nat.mod_lt numerator positive
  rw [quotient_eq numerator positive, roundedQuotient]
  generalize numerator % denominator = remainder at small
  generalize numerator / denominator = quotient
  have notNegative : (0 : ℚ) ≤ remainder / denominator := by positivity
  have below : (remainder : ℚ) / denominator < 1 := by
    rw [div_lt_one isPositive]
    exact_mod_cast small
  rcases Nat.lt_trichotomy (2 * remainder) denominator with half | half | half
  · have lower : (remainder : ℚ) / denominator < 1 / 2 := by
      rw [div_lt_iff₀ isPositive]
      have asRat : (2 : ℚ) * remainder < denominator := by exact_mod_cast half
      linarith
    have distance : |(quotient : ℚ) - (quotient + remainder / denominator)| < 1 / 2 := by
      rw [abs_lt]
      constructor <;> linarith
    simp only [half, if_true]
    exact ⟨distance.le, fun tie => absurd tie distance.ne⟩
  · have middle : (remainder : ℚ) / denominator = 1 / 2 := by
      rw [div_eq_iff isPositive.ne']
      have asRat : (2 : ℚ) * remainder = denominator := by exact_mod_cast half
      linarith
    simp only [half, lt_irrefl, if_false]
    rw [middle, IsNearest, abs_le]
    rcases Nat.mod_two_eq_zero_or_one quotient with parity | parity
    · rw [parity, Nat.add_zero]
      exact ⟨⟨by linarith, by linarith⟩, fun _ => parity⟩
    · rw [parity]
      push_cast
      exact ⟨⟨by linarith, by linarith⟩, fun _ => by omega⟩
  · have upper : 1 / 2 < (remainder : ℚ) / denominator := by
      rw [lt_div_iff₀ isPositive]
      have asRat : (denominator : ℚ) < 2 * remainder := by exact_mod_cast half
      linarith
    have distance : |((quotient + 1 : ℕ) : ℚ) - (quotient + remainder / denominator)| < 1 / 2 := by
      rw [abs_lt]
      push_cast
      constructor <;> linarith
    simp only [half, not_lt_of_gt half, if_true, if_false]
    exact ⟨distance.le, fun tie => absurd tie distance.ne⟩

/-- There is only one nearest whole number. -/
theorem IsNearest.unique {exact : ℚ} {first second : ℕ} (isFirst : IsNearest exact first)
    (isSecond : IsNearest exact second) : first = second := by
  -- By symmetry it is enough that no nearest number is below another.
  have notBelow : ∀ {low high : ℕ}, IsNearest exact low → IsNearest exact high → high ≤ low := by
    intro low high isLow isHigh
    by_contra below
    have order : ((low + 1 : ℕ) : ℚ) ≤ high := by exact_mod_cast Nat.lt_of_not_le below
    push_cast at order
    have fromLow := abs_le.1 isLow.1
    have fromHigh := abs_le.1 isHigh.1
    have lowTie : |(low : ℚ) - exact| = 1 / 2 := by
      rw [abs_eq (by norm_num)]
      right
      linarith
    have highTie : |(high : ℚ) - exact| = 1 / 2 := by
      rw [abs_eq (by norm_num)]
      left
      linarith
    have next : (high : ℚ) = (low + 1 : ℕ) := by
      push_cast
      linarith
    have same : high = low + 1 := by exact_mod_cast next
    have lowEven := isLow.2 lowTie
    have highEven := isHigh.2 highTie
    omega
  exact Nat.le_antisymm (notBelow isSecond isFirst) (notBelow isFirst isSecond)

namespace BinaryFormat

variable {format : BinaryFormat} {significand : ℕ} {place : ℤ}

/-- A format has a pattern for a significand at a place. -/
structure Canonical (format : BinaryFormat) (significand : ℕ) (place : ℤ) : Prop where
  short : significand < 2 * format.exponentUnit
  above : format.lowestExponent ≤ place
  below : place + 2 ≤ format.lowestExponent + format.highestField
  full : place = format.lowestExponent ∨ format.exponentUnit ≤ significand

/-- The pattern of a significand at a place, without the sign. -/
def magnitudeBits (format : BinaryFormat) (significand : ℕ) (place : ℤ) : ℕ :=
  (place - format.lowestExponent).toNat * format.exponentUnit + significand

theorem exponentUnit_pos (format : BinaryFormat) : 0 < format.exponentUnit :=
  Nat.two_pow_pos _

theorem signBit_eq (format : BinaryFormat) :
    format.signBit = format.exponentUnit * (format.highestField + 1) := by
  have positive := Nat.two_pow_pos format.exponentBits
  simp only [signBit, exponentUnit, highestField, Nat.pow_eq, Nat.pow_add]
  congr 1
  omega

/-- The three fields of a pattern say what it stands for. -/
theorem value_fields {fraction biased : ℕ} (short : fraction < format.exponentUnit)
    (range : biased ≤ format.highestField) (negative : Bool) :
    format.value (fraction +
        format.exponentUnit * (biased + (format.highestField + 1) * negative.toNat)) =
      if biased = format.highestField then
        if fraction = 0 then .infinite negative else .nan
      else if biased = 0 then .finite negative fraction format.lowestExponent
      else .finite negative (format.exponentUnit + fraction) (format.lowestExponent + biased - 1) := by
  have unit := format.exponentUnit_pos
  have isExponent : (fraction +
      format.exponentUnit * (biased + (format.highestField + 1) * negative.toNat)) /
        format.exponentUnit = biased + (format.highestField + 1) * negative.toNat := by
    rw [Nat.add_mul_div_left _ _ unit, Nat.div_eq_of_lt short, Nat.zero_add]
  have isSign : (biased + (format.highestField + 1) * negative.toNat) /
      (format.highestField + 1) = negative.toNat := by
    rw [Nat.add_mul_div_left _ _ (Nat.succ_pos _), Nat.div_eq_of_lt (Nat.lt_succ_of_le range),
      Nat.zero_add]
  have sign : (negative.toNat % 2 == 1) = negative := by cases negative <;> rfl
  simp only [value, signBit_eq, ← Nat.div_div_eq_div_mul, isExponent, isSign, sign,
    Nat.add_mul_mod_self_left, Nat.mod_eq_of_lt short, Nat.mod_eq_of_lt (Nat.lt_succ_of_le range)]

theorem exists_fields {bits : ℕ} (bounded : bits < 2 * format.signBit) :
    ∃ fraction biased negative, fraction < format.exponentUnit ∧ biased ≤ format.highestField ∧
      bits = fraction +
        format.exponentUnit * (biased + (format.highestField + 1) * Bool.toNat negative) := by
  have sign : bits / format.exponentUnit / (format.highestField + 1) < 2 := by
    rw [Nat.div_div_eq_div_mul, ← signBit_eq]
    exact Nat.div_lt_of_lt_mul (by rwa [Nat.mul_comm] at bounded)
  obtain ⟨negative, isNegative⟩ : ∃ negative, Bool.toNat negative =
      bits / format.exponentUnit / (format.highestField + 1) := by
    rcases Nat.lt_succ_iff_lt_or_eq.1 sign with zero | one
    · exact ⟨false, by simp [Nat.lt_one_iff.1 zero]⟩
    · exact ⟨true, by simp [one]⟩
  refine ⟨bits % format.exponentUnit, bits / format.exponentUnit % (format.highestField + 1),
    negative, Nat.mod_lt _ format.exponentUnit_pos,
    Nat.lt_succ_iff.1 (Nat.mod_lt _ (Nat.succ_pos _)), ?_⟩
  rw [isNegative, Nat.mod_add_div, Nat.mod_add_div]

theorem magnitudeBits_lowest (significand : ℕ) :
    format.magnitudeBits significand format.lowestExponent = significand := by
  simp [magnitudeBits]

theorem magnitudeBits_full (fraction biased : ℕ) :
    format.magnitudeBits (format.exponentUnit + fraction)
      (format.lowestExponent + (biased + 1 : ℕ) - 1) =
        fraction + format.exponentUnit * (biased + 1) := by
  have steps : (format.lowestExponent + (biased + 1 : ℕ) - 1 - format.lowestExponent).toNat =
      biased := by omega
  rw [magnitudeBits, steps]
  ring

/-- A finite value comes from the pattern of a canonical pair. -/
theorem canonical_of_value {bits : ℕ} {negative : Bool} (wide : 2 ≤ format.highestField)
    (bounded : bits < 2 * format.signBit)
    (isValue : format.value bits = .finite negative significand place) :
    format.Canonical significand place ∧
      bits = format.magnitudeBits significand place + if negative then format.signBit else 0 := by
  obtain ⟨fraction, biased, sign, short, range, rfl⟩ := exists_fields bounded
  have isSign : format.exponentUnit * ((format.highestField + 1) * sign.toNat) =
      if sign then format.signBit else 0 := by
    cases sign <;> simp [signBit_eq]
  rw [value_fields short range] at isValue
  rw [Nat.mul_add, isSign, ← Nat.add_assoc]
  split at isValue
  · split at isValue <;> cases isValue
  · next notHighest =>
    split at isValue
    · next zero =>
      cases isValue
      refine ⟨⟨by omega, le_refl _, by omega, .inl rfl⟩, ?_⟩
      rw [zero, magnitudeBits_lowest, Nat.mul_zero, Nat.add_zero]
    · next notZero =>
      obtain ⟨lower, rfl⟩ := Nat.exists_eq_succ_of_ne_zero notZero
      cases isValue
      refine ⟨⟨by omega, by omega, by omega, .inr (by omega)⟩, ?_⟩
      rw [Nat.succ_eq_add_one, magnitudeBits_full]

theorem magnitudeBits_lt (canonical : format.Canonical significand place) :
    format.magnitudeBits significand place < format.infinityBits := by
  obtain ⟨steps, rfl⟩ := Int.le.dest canonical.above
  have short := canonical.short
  have below := canonical.below
  have field : (steps + 2) * format.exponentUnit ≤ format.highestField * format.exponentUnit :=
    Nat.mul_le_mul_right _ (by omega)
  rw [Nat.add_mul] at field
  rw [magnitudeBits, add_sub_cancel_left, Int.toNat_natCast, infinityBits]
  omega

/-- The pattern of a canonical pair, with either sign, stands for it. -/
theorem value_magnitudeBits (canonical : format.Canonical significand place) (negative : Bool) :
    format.value (format.magnitudeBits significand place + if negative then format.signBit else 0) =
      .finite negative significand place := by
  have short := canonical.short
  have below := canonical.below
  have isSign : (if negative then format.signBit else 0) =
      format.exponentUnit * ((format.highestField + 1) * negative.toNat) := by
    cases negative <;> simp [signBit_eq]
  rw [isSign]
  rcases Nat.lt_or_ge significand format.exponentUnit with subnormal | normal
  · have lowest : place = format.lowestExponent := by
      rcases canonical.full with lowest | full <;> omega
    subst lowest
    have isValue := value_fields subnormal (Nat.zero_le _) negative
    rw [if_neg (by omega), if_pos rfl] at isValue
    rw [magnitudeBits_lowest]
    simpa using isValue
  · obtain ⟨fraction, rfl⟩ := Nat.exists_eq_add_of_le normal
    obtain ⟨steps, rfl⟩ := Int.le.dest canonical.above
    have isPlace : format.lowestExponent + (steps : ℤ) =
        format.lowestExponent + (steps + 1 : ℕ) - 1 := by
      push_cast
      ring
    have isValue := value_fields (show fraction < format.exponentUnit by omega)
      (show steps + 1 ≤ format.highestField by omega) negative
    rw [if_neg (by omega), if_neg (by omega)] at isValue
    rw [isPlace, magnitudeBits_full, Nat.add_assoc, ← Nat.mul_add]
    exact isValue

section Nearest

variable {mantissa : ℕ} {exponent : ℤ}

theorem log2_bounds (positive : 0 < mantissa) (exponent : ℤ) :
    (2 : ℚ) ^ (exponent + Nat.log2 mantissa) ≤ mantissa * 2 ^ exponent ∧
      mantissa * 2 ^ exponent < (2 : ℚ) ^ (exponent + Nat.log2 mantissa + 1) := by
  have step : (0 : ℚ) < 2 ^ exponent := by positivity
  have low : ((2 ^ mantissa.log2 : ℕ) : ℚ) ≤ mantissa := by
    exact_mod_cast Nat.log2_self_le positive.ne'
  have high : (mantissa : ℚ) < (2 ^ (mantissa.log2 + 1) : ℕ) := by
    exact_mod_cast Nat.lt_log2_self
  constructor
  · rw [zpow_add₀ two_ne_zero, zpow_natCast, mul_comm]
    push_cast at low
    exact mul_le_mul_of_nonneg_right low step.le
  · rw [add_assoc, zpow_add₀ two_ne_zero, mul_comm (2 ^ exponent)]
    push_cast at high
    exact mul_lt_mul_of_pos_right (by exact_mod_cast high) step

/-- The last place is the one in which a number of its size has a full significand. -/
theorem lastPlace_eq (positive : 0 < mantissa) (above : format.lowestExponent ≤ place)
    (high : mantissa * 2 ^ exponent < (2 : ℚ) ^ (format.fractionBits + 1 + place))
    (low : place = format.lowestExponent ∨
      (2 : ℚ) ^ (format.fractionBits + place) ≤ mantissa * 2 ^ exponent) :
    format.lastPlace mantissa exponent = place := by
  have bounds := log2_bounds positive exponent
  have isBelow := (zpow_lt_zpow_iff_right₀ (by norm_num : (1 : ℚ) < 2)).1 (bounds.1.trans_lt high)
  rw [lastPlace]
  rcases low with lowest | low
  · omega
  · have isAbove := (zpow_lt_zpow_iff_right₀ (by norm_num : (1 : ℚ) < 2)).1 (low.trans_lt bounds.2)
    omega

/-- A conversion takes the nearest whole number of steps of the last place. -/
theorem exists_nearest_eq (positive : 0 < mantissa)
    (isPlace : format.lastPlace mantissa exponent = place) :
    ∃ kept, IsNearest (mantissa * 2 ^ exponent / 2 ^ place) kept ∧
      format.nearest mantissa exponent =
        min format.infinityBits (format.magnitudeBits kept place) := by
  simp only [nearest, positive.ne', if_false, isPlace]
  refine ⟨_, ?_, rfl⟩
  split
  · next coarse =>
    obtain ⟨shift, rfl⟩ := Int.le.dest coarse
    have whole : (mantissa : ℚ) * 2 ^ (place + (shift : ℤ)) / 2 ^ place =
        (mantissa * 2 ^ shift : ℕ) := by
      rw [zpow_add₀ two_ne_zero, zpow_natCast]
      push_cast
      field_simp
    rw [whole, add_sub_cancel_left, Int.toNat_natCast, Nat.pow_eq]
    exact isNearest_natCast _
  · next fine =>
    obtain ⟨shift, rfl⟩ := Int.le.dest (show exponent ≤ place by omega)
    have quotient : (mantissa : ℚ) * 2 ^ exponent / 2 ^ (exponent + (shift : ℤ)) =
        mantissa / (2 ^ shift : ℕ) := by
      rw [zpow_add₀ two_ne_zero, zpow_natCast]
      push_cast
      field_simp
    rw [quotient, add_sub_cancel_left, Int.toNat_natCast, Nat.pow_eq]
    exact isNearest_roundedQuotient mantissa (Nat.two_pow_pos shift)

theorem exponentUnit_eq (format : BinaryFormat) :
    (format.exponentUnit : ℚ) = (2 : ℚ) ^ (format.fractionBits : ℤ) := by
  rw [zpow_natCast, exponentUnit, Nat.pow_eq]
  push_cast
  rfl

/-- An exact number is converted to the significand that is nearest at its place. -/
theorem nearest_eq (positive : 0 < mantissa) (canonical : format.Canonical significand place)
    (isNearest : IsNearest (mantissa * 2 ^ exponent / 2 ^ place) significand)
    (full : place = format.lowestExponent ∨
      (2 : ℚ) ^ (format.fractionBits + place) ≤ mantissa * 2 ^ exponent) :
    format.nearest mantissa exponent = format.magnitudeBits significand place := by
  have step : (0 : ℚ) < 2 ^ place := by positivity
  have short : ((significand + 1 : ℕ) : ℚ) ≤ (2 * format.exponentUnit : ℕ) := by
    exact_mod_cast canonical.short
  have high : mantissa * 2 ^ exponent < (2 : ℚ) ^ (format.fractionBits + 1 + place) := by
    have count : (mantissa : ℚ) * 2 ^ exponent / 2 ^ place < 2 * format.exponentUnit := by
      push_cast at short
      linarith [(abs_le.1 isNearest.1).1]
    rw [div_lt_iff₀ step, exponentUnit_eq] at count
    rw [zpow_add₀ two_ne_zero, zpow_add₀ two_ne_zero, zpow_one]
    linarith
  rcases exists_nearest_eq positive (lastPlace_eq positive canonical.above high full) with
    ⟨kept, isKept, nearest⟩
  rw [nearest, isKept.unique isNearest, min_eq_right (magnitudeBits_lt canonical).le]

/-- A number that a format has is converted to its own pattern. -/
theorem nearest_of_canonical (positive : 0 < mantissa)
    (canonical : format.Canonical significand place)
    (same : (mantissa : ℚ) * 2 ^ exponent = significand * 2 ^ place) :
    format.nearest mantissa exponent = format.magnitudeBits significand place := by
  have step : (0 : ℚ) < 2 ^ place := by positivity
  refine nearest_eq positive canonical ?_ (canonical.full.imp id fun full => ?_)
  · rw [same, mul_div_cancel_right₀ _ step.ne']
    exact isNearest_natCast significand
  · rw [same, zpow_add₀ two_ne_zero, ← exponentUnit_eq]
    exact mul_le_mul_of_nonneg_right (by exact_mod_cast full) step.le

theorem magnitudeBits_carry (above : format.lowestExponent ≤ place) :
    format.magnitudeBits (2 * format.exponentUnit) place =
      format.magnitudeBits format.exponentUnit (place + 1) := by
  obtain ⟨steps, rfl⟩ := Int.le.dest above
  have next : (format.lowestExponent + (steps : ℤ) + 1 - format.lowestExponent).toNat =
      steps + 1 := by omega
  rw [magnitudeBits, magnitudeBits, add_sub_cancel_left, Int.toNat_natCast, next]
  ring

/-- A number just below a power of two is converted to it if no significand is nearer. -/
theorem nearest_eq_of_carry (positive : 0 < mantissa)
    (canonical : format.Canonical format.exponentUnit (place + 1))
    (above : format.lowestExponent ≤ place)
    (isNearest : IsNearest (mantissa * 2 ^ exponent / 2 ^ place) (2 * format.exponentUnit))
    (below : mantissa * 2 ^ exponent < (2 : ℚ) ^ (format.fractionBits + 1 + place)) :
    format.nearest mantissa exponent = format.magnitudeBits format.exponentUnit (place + 1) := by
  have step : (0 : ℚ) < 2 ^ place := by positivity
  have one : (1 : ℚ) ≤ format.exponentUnit := by exact_mod_cast format.exponentUnit_pos
  have full : (2 : ℚ) ^ (format.fractionBits + place) ≤ mantissa * 2 ^ exponent := by
    have count : (format.exponentUnit : ℚ) ≤ mantissa * 2 ^ exponent / 2 ^ place := by
      have close := (abs_le.1 isNearest.1).2
      push_cast at close
      linarith
    rwa [le_div_iff₀ step, exponentUnit_eq, ← zpow_add₀ two_ne_zero] at count
  rcases exists_nearest_eq positive (lastPlace_eq positive above below (.inr full)) with
    ⟨kept, isKept, nearest⟩
  rw [nearest, isKept.unique isNearest, magnitudeBits_carry above,
    min_eq_right (magnitudeBits_lt canonical).le]

end Nearest

end BinaryFormat

namespace Double

theorem fits_of_canonical {significand : ℕ} {place : ℤ}
    (canonical : BinaryFormat.double.Canonical significand place) (long : 2 ^ 52 ≤ significand) :
    BinaryFormat.Fits .binary64 significand place := by
  have unit : BinaryFormat.double.exponentUnit = 2 ^ 52 := rfl
  have lowest : BinaryFormat.double.lowestExponent = -1074 := rfl
  have highest : BinaryFormat.double.highestField = 2047 := rfl
  have short := canonical.short
  have above := canonical.above
  have below := canonical.below
  rw [unit] at short
  rw [lowest] at above
  rw [lowest, highest] at below
  exact fits_of_range long (by omega) above (by omega)

/-- The number of a pattern stands for what the pattern stands for. -/
theorem is_ofBits {significand : ℕ} {place : ℤ}
    (canonical : BinaryFormat.double.Canonical significand place) (long : 2 ^ 52 ≤ significand) :
    Is (Float.ofBits (UInt64.ofNat (BinaryFormat.double.magnitudeBits significand place)))
      (significand * 2 ^ place) := by
  have bounded := BinaryFormat.magnitudeBits_lt canonical
  have infinity : BinaryFormat.double.infinityBits = 9218868437227405312 := by decide
  have isValue := BinaryFormat.value_magnitudeBits canonical false
  rw [if_neg Bool.false_ne_true, Nat.add_zero] at isValue
  refine ⟨significand, place, ?_, long, (fits_of_canonical canonical long).high, rfl⟩
  rw [value_ofBits_ofNat (by omega) (by simp [isValue]), isValue]

theorem ofInt_natCast (whole : ℕ) :
    ofInt whole = Float.ofBits (UInt64.ofNat (BinaryFormat.double.nearest whole 0)) := by
  have notNegative : decide ((whole : ℤ) < 0) = false := by simp
  rw [ofInt, ofValue, BinaryFormat.pattern, notNegative, Int.natAbs_natCast]
  rfl

/-- A full count of steps, or one that carries into the next bit, is the number of its pattern. -/
theorem is_ofBits_of_count {count : ℕ} {place : ℤ} (long : 2 ^ 52 ≤ count) (short : count ≤ 2 ^ 53)
    (normal : -1074 ≤ place) (small : place < 948) :
    Is (Float.ofBits (UInt64.ofNat (min BinaryFormat.double.infinityBits
      (BinaryFormat.double.magnitudeBits count place)))) (count * 2 ^ place) := by
  have unit : BinaryFormat.double.exponentUnit = 2 ^ 52 := rfl
  have lowest : BinaryFormat.double.lowestExponent = -1074 := rfl
  have highest : BinaryFormat.double.highestField = 2047 := rfl
  rcases short.lt_or_eq with short | rfl
  · have canonical : BinaryFormat.double.Canonical count place :=
      ⟨by omega, by omega, by omega, .inr (by omega)⟩
    rw [min_eq_right (BinaryFormat.magnitudeBits_lt canonical).le]
    exact is_ofBits canonical long
  · have canonical : BinaryFormat.double.Canonical (2 ^ 52) (place + 1) :=
      ⟨by omega, by omega, by omega, .inr (by omega)⟩
    have carry : BinaryFormat.double.magnitudeBits (2 ^ 53) place =
        BinaryFormat.double.magnitudeBits (2 ^ 52) (place + 1) :=
      BinaryFormat.magnitudeBits_carry normal
    rw [carry, min_eq_right (BinaryFormat.magnitudeBits_lt canonical).le, ← carried place]
    exact is_ofBits canonical (le_refl _)

theorem natCast_lt_of_lt {whole bits : ℕ} (short : whole < 2 ^ bits) (few : bits ≤ 1000) :
    (whole : ℚ) < 2 ^ (1000 : ℤ) := by
  calc (whole : ℚ) < (2 ^ bits : ℕ) := by exact_mod_cast short
    _ = 2 ^ (bits : ℤ) := by push_cast; rw [zpow_natCast]
    _ ≤ 2 ^ (1000 : ℤ) := zpow_le_zpow_right₀ (by norm_num) (by omega)

/-- A whole number is rounded once. -/
theorem exists_is_ofInt {whole : ℕ} (positive : 0 < whole) (below : (whole : ℚ) < 2 ^ (1000 : ℤ)) :
    ∃ rounded, Is (ofInt whole) rounded ∧ IsRounding whole rounded := by
  have lowest : BinaryFormat.double.lowestExponent = -1074 := rfl
  have bits : BinaryFormat.double.fractionBits = 52 := rfl
  have bounds := BinaryFormat.log2_bounds positive 0
  rw [zero_add, zpow_zero, mul_one] at bounds
  generalize isPlace : (whole.log2 : ℤ) - 52 = place
  have small : place < 948 := by
    have order := (zpow_lt_zpow_iff_right₀ (by norm_num : (1 : ℚ) < 2)).1 (bounds.1.trans_lt below)
    omega
  have step : (0 : ℚ) < 2 ^ place := by positivity
  have low : 2 ^ 52 * 2 ^ place ≤ (whole : ℚ) := by
    refine le_of_eq_of_le ?_ bounds.1
    rw [← zpow_natCast, ← zpow_add₀ two_ne_zero]
    congr 1
    push_cast
    omega
  have high : (whole : ℚ) < 2 ^ 53 * 2 ^ place := by
    refine lt_of_lt_of_eq bounds.2 ?_
    rw [← zpow_natCast, ← zpow_add₀ two_ne_zero]
    congr 1
    push_cast
    omega
  have isLast : BinaryFormat.double.lastPlace whole 0 = place := by
    rw [BinaryFormat.lastPlace, lowest, bits]
    omega
  rcases BinaryFormat.exists_nearest_eq positive isLast with ⟨kept, isNearest, nearest⟩
  rw [zpow_zero, mul_one] at isNearest
  rcases count_bounds (by rwa [le_div_iff₀ step]) (by rwa [div_lt_iff₀ step]) isNearest.1 with
    ⟨keptLow, keptHigh⟩
  refine ⟨kept * 2 ^ place, ?_, place, kept, low, high, rfl, isNearest.1⟩
  rw [ofInt_natCast, nearest]
  exact is_ofBits_of_count keptLow keptHigh (by omega) small

theorem isFinite_of_value {number : Float} {negative : Bool} {significand : ℕ} {place : ℤ}
    (isValue : value number = .finite negative significand place) : number.isFinite = true := by
  have isExact : BinaryFormat.double.ofUnpacked number.toModel.unpack =
      .finite negative significand place :=
    (@BinaryFormat.value_toNat .binary64 number.toBits.toBitVec).symm.trans isValue
  change number.toModel.unpack.isFinite = true
  generalize number.toModel.unpack = unpacked at isExact
  cases unpacked with
  | notANumber => cases isExact
  | infinity sign => cases isExact
  | zero sign => rfl
  | finite sign mantissa exponent positive => rfl

/-- The opposite number has the same magnitude. -/
theorem value_neg {number : Float} {significand : ℕ} {place : ℤ}
    (isValue : value number = .finite false significand place) (long : 2 ^ 52 ≤ significand) :
    value (-number) = .finite true significand place := by
  have bounded : number.toBits.toNat < 2 * BinaryFormat.double.signBit := number.toBits.toNat_lt
  have canonical := (BinaryFormat.canonical_of_value (by decide) bounded isValue).1
  have negated : -number =
      .ofModel (.pack (.finite .negative significand place (by omega))) := by
    change Float.ofModel (.pack (UnpackedFloat.neg number.toModel.unpack)) = _
    rw [unpack_eq isValue (by omega)]
    rfl
  rw [negated, value_pack _ (fits_of_canonical canonical long)]
  rfl

end Double

end PhysicsScene
