import PhysicsScene.Json.Printer
import PhysicsScene.Proofs.Decimal.Separation
import PhysicsScene.Proofs.Decimal.Shortest
import PhysicsScene.Proofs.Json.DecimalText
import PhysicsScene.Proofs.Json.Magnitude

/-!
# Singles are read back from their decimals

The quick rule of the reader is not correct rounding, so the double that it finds for a short
decimal can lie outside the rounding interval that the decimal lies in. Then an end of the interval
is between the two, so the decimal is close to an odd multiple of a power of two. It has at most as
many digits as that multiple, and is equal to it (`eq_of_close`). But then the exponent is small and
the quick rule exact. Six values are left over, and they are read back by computation.
-/

namespace PhysicsScene

namespace Decimal

open RoundingInterval

variable {significand : ℕ} {place : ℤ} {decimal : Decimal}

namespace IsShort

theorem number_bounds (isShort : IsShort significand place decimal) (positive : 0 < significand)
    (canonical : BinaryFormat.single.Canonical significand place) :
    0 < decimal.number ∧ decimal.number < 10 ^ (39 : ℤ) := by
  have step : (0 : ℚ) < 2 ^ place := by positivity
  have one : (1 : ℚ) ≤ significand := by exact_mod_cast positive
  have size : ((significand + 1 : ℕ) : ℚ) ≤ (2 ^ 24 : ℕ) := by exact_mod_cast canonical.short
  have top : (2 : ℚ) ^ place ≤ 2 ^ (104 : ℤ) := by
    have below := canonical.below
    have lowest : BinaryFormat.single.lowestExponent = -149 := rfl
    have highest : BinaryFormat.single.highestField = 255 := rfl
    exact zpow_le_zpow_right₀ (by norm_num) (by omega)
  rcases steps_of_holds positive isShort.inside with ⟨⟨low, high⟩, -, -⟩
  rw [le_div_iff₀ step] at low
  rw [div_le_iff₀ step] at high
  push_cast at size
  constructor
  · have some : 0 < ((significand : ℚ) - 1 / 2) * 2 ^ place := mul_pos (by linarith) step
    exact some.trans_le low
  · calc decimal.number ≤ (significand + 1 / 2) * 2 ^ place := high
      _ ≤ 2 ^ (24 : ℤ) * 2 ^ (104 : ℤ) :=
        mul_le_mul (by norm_num at size ⊢; linarith) top step.le (by positivity)
      _ < 10 ^ (39 : ℤ) := by norm_num

theorem digits_pos (isShort : IsShort significand place decimal) (positive : 0 < significand)
    (canonical : BinaryFormat.single.Canonical significand place) : 0 < decimal.digits := by
  have some := (isShort.number_bounds positive canonical).1
  rcases Nat.eq_zero_or_pos decimal.digits with zero | digits
  · rw [number, zero, Nat.cast_zero, zero_mul] at some
    exact absurd some (lt_irrefl 0)
  · exact digits

theorem exponent_le (isShort : IsShort significand place decimal) (positive : 0 < significand)
    (canonical : BinaryFormat.single.Canonical significand place) : decimal.exponent ≤ 38 := by
  have one : (1 : ℚ) ≤ decimal.digits := by exact_mod_cast isShort.digits_pos positive canonical
  have step : (0 : ℚ) < 10 ^ decimal.exponent := by positivity
  have power : (10 : ℚ) ^ decimal.exponent < 10 ^ (39 : ℤ) :=
    (le_mul_of_one_le_left step.le one).trans_lt (isShort.number_bounds positive canonical).2
  have order := (zpow_lt_zpow_iff_right₀ (by norm_num : (1 : ℚ) < 10)).1 power
  omega

section Close

variable {count : ℕ} {half : ℤ} (isShort : IsShort significand place decimal)
  (isEnd : IsEnd .single significand place count half)
  (close : |decimal.number - count * 2 ^ half| ≤ decimal.number * (5 / 2 ^ 54))

include isShort isEnd close

/-- Near an end the grid is about as coarse as the end is far from the value. -/
theorem pow_le_of_close :
    (2 : ℚ) ^ half ≤ 10 ^ decimal.exponent + decimal.number * (5 / 2 ^ 54) := by
  calc (2 : ℚ) ^ half = |(count : ℚ) * 2 ^ half - significand * 2 ^ place| := isEnd.distance.symm
    _ ≤ |(count : ℚ) * 2 ^ half - decimal.number| +
          |decimal.number - significand * 2 ^ place| := abs_sub_le _ _ _
    _ ≤ 10 ^ decimal.exponent + decimal.number * (5 / 2 ^ 54) := by
        rw [abs_sub_comm]
        linarith [isShort.near]

theorem digits_le_of_close (canonical : BinaryFormat.single.Canonical significand place) :
    decimal.digits ≤ count := by
  have step : (0 : ℚ) < 10 ^ decimal.exponent := by positivity
  have coarse := isShort.pow_le_of_close isEnd close
  have short : (count : ℚ) ≤ 2 ^ 25 := by exact_mod_cast (isEnd.short canonical).le
  have notNegative : (0 : ℚ) ≤ count := Nat.cast_nonneg count
  have digits : (0 : ℚ) ≤ decimal.digits := Nat.cast_nonneg decimal.digits
  have upper : decimal.number * (1 - 5 / 2 ^ 54) ≤ count * 2 ^ half := by
    linarith [(abs_le.1 close).2]
  have scaled := upper.trans (mul_le_mul_of_nonneg_left coarse notNegative)
  rw [number] at scaled
  have cancelled : (decimal.digits : ℚ) * (1 - 5 / 2 ^ 54) ≤
      count * (1 + decimal.digits * (5 / 2 ^ 54)) := by
    refine le_of_mul_le_mul_right ?_ step
    linarith
  have product : (count : ℚ) * (decimal.digits * (5 / 2 ^ 54)) ≤
      2 ^ 25 * (decimal.digits * (5 / 2 ^ 54)) :=
    mul_le_mul_of_nonneg_right short (by positivity)
  by_contra beyond
  have more : ((count + 1 : ℕ) : ℚ) ≤ decimal.digits := by
    exact_mod_cast Nat.lt_of_not_le beyond
  push_cast at more
  linarith

theorem exponent_ge_of_close (canonical : BinaryFormat.single.Canonical significand place) :
    -45 ≤ decimal.exponent := by
  have step : (0 : ℚ) < 10 ^ decimal.exponent := by positivity
  have coarse := isShort.pow_le_of_close isEnd close
  have order := isShort.digits_le_of_close isEnd close canonical
  have short : (decimal.digits : ℚ) ≤ 2 ^ 25 := by
    exact_mod_cast order.trans (isEnd.short canonical).le
  have small : decimal.number ≤ 2 ^ 25 * 10 ^ decimal.exponent :=
    mul_le_mul_of_nonneg_right short step.le
  have lowest : (2 : ℚ) ^ (-150 : ℤ) ≤ 2 ^ half :=
    zpow_le_zpow_right₀ (by norm_num) (isEnd.above canonical)
  have power : (10 : ℚ) ^ (-46 : ℤ) < 10 ^ decimal.exponent := by
    have tiny : (10 : ℚ) ^ (-46 : ℤ) * 2 < 2 ^ (-150 : ℤ) := by norm_num
    linarith
  have above := (zpow_lt_zpow_iff_right₀ (by norm_num : (1 : ℚ) < 10)).1 power
  omega

end Close

end IsShort

/-- An equation of a decimal and a multiple of a power of two, without fractions. -/
theorem exists_mul_eq {digits count : ℕ} {grid half : ℤ}
    (same : (digits : ℚ) * 10 ^ grid = count * 2 ^ half) :
    ∃ left right, digits * 5 ^ grid.toNat * 2 ^ left = count * 5 ^ (-grid).toNat * 2 ^ right := by
  refine ⟨(grid - half).toNat, (-(grid - half)).toNat, ?_⟩
  have two : (2 : ℚ) ^ grid = 2 ^ half * 2 ^ (grid - half) := by
    rw [← zpow_add₀ two_ne_zero]
    congr 1
    ring
  have ten : (10 : ℚ) ^ grid =
      5 ^ grid.toNat / 5 ^ (-grid).toNat *
        (2 ^ half * (2 ^ (grid - half).toNat / 2 ^ (-(grid - half)).toNat)) := by
    rw [← zpow_eq_div two_ne_zero, ← two, ← zpow_eq_div (by norm_num), ← mul_zpow]
    norm_num
  have step : (2 : ℚ) ^ half ≠ 0 := by positivity
  rw [ten] at same
  field_simp at same
  have equal : digits * 5 ^ grid.toNat * 2 ^ (grid - half).toNat =
      5 ^ (-grid).toNat * 2 ^ (-(grid - half)).toNat * count := by
    exact_mod_cast same
  rw [equal]
  ring

/-- A decimal can only be equal to a short multiple of a power of two if its exponent is small. -/
theorem natAbs_le_of_eq {digits count : ℕ} {grid half : ℤ} (positive : 0 < digits)
    (order : digits ≤ count) (short : count < 2 ^ 25)
    (same : (digits : ℚ) * 10 ^ grid = count * 2 ^ half) : grid.natAbs ≤ 10 := by
  rcases exists_mul_eq same with ⟨left, right, equal⟩
  have coprime : ∀ fives twos : ℕ, Nat.Coprime (5 ^ fives) (2 ^ twos) := fun fives twos =>
    Nat.Coprime.pow fives twos (by decide)
  have small : ∀ {fives value : ℕ}, 0 < value → value < 2 ^ 25 → 5 ^ fives ∣ value → fives ≤ 10 := by
    intro fives value some bound divides
    by_contra large
    have least := Nat.le_of_dvd some divides
    have power : 5 ^ 11 ≤ 5 ^ fives := Nat.pow_le_pow_right (by decide) (by omega)
    omega
  rcases le_or_gt 0 grid with up | down
  · have none : (-grid).toNat = 0 := by omega
    rw [none, pow_zero, mul_one] at equal
    have divides : 5 ^ grid.toNat ∣ count * 2 ^ right := by
      rw [← equal]
      exact (Dvd.intro_left digits rfl).mul_right _
    have bound := small (by omega) short ((coprime _ right).dvd_of_dvd_mul_right divides)
    omega
  · have none : grid.toNat = 0 := by omega
    rw [none, pow_zero, mul_one] at equal
    have divides : 5 ^ (-grid).toNat ∣ digits * 2 ^ left := by
      rw [equal]
      exact (Dvd.intro_left count rfl).mul_right _
    have bound := small positive (order.trans_lt short)
      ((coprime _ left).dvd_of_dvd_mul_right divides)
    omega

/-- The values whose decimals come too close to an end to tell by estimates. -/
def hardCases : List (ℕ × ℤ) :=
  [(11420669, -106), (11420670, -106), (11420669, -107), (11420670, -107), (14437329, -49),
    (14437330, -49)]

theorem mem_hardCases_of_isEnd {count : ℕ} {half : ℤ}
    (isEnd : IsEnd .single significand place count half)
    (isHard : count = 22841339 ∧ (half = -107 ∨ half = -108) ∨ count = 28874659 ∧ half = -50) :
    (significand, place) ∈ hardCases := by
  have unit : BinaryFormat.single.exponentUnit = 8388608 := rfl
  have either : (significand = 11420669 ∨ significand = 11420670) ∧ (place = -106 ∨ place = -107) ∨
      (significand = 14437329 ∨ significand = 14437330) ∧ place = -49 := by
    cases isEnd <;> omega
  rcases either with ⟨rfl | rfl, rfl | rfl⟩ | ⟨rfl | rfl, rfl⟩ <;> decide

/-- What the reader finds for a short decimal lies in the rounding interval. -/
theorem holds_of_approximates (isShort : IsShort significand place decimal)
    (positive : 0 < significand) (canonical : BinaryFormat.single.Canonical significand place)
    (notHard : (significand, place) ∉ hardCases) {scaled : Numeral.Scaled}
    (same : scaled.number = decimal.number)
    (exponent : scaled.exponent = decimal.exponent ∨ scaled.exponent.natAbs ≤ 22) {found : ℚ}
    (approximates : scaled.Approximates found) :
    (around .single significand place).Holds found := by
  by_contra outside
  rcases exists_isEnd_of_not_holds positive isShort.inside outside with ⟨count, half, isEnd, nearer⟩
  have near := approximates.near
  rw [same, abs_sub_comm] at near
  have close := nearer.trans near
  have digits := isShort.digits_pos positive canonical
  have order := isShort.digits_le_of_close isEnd close canonical
  have short : count < 2 ^ 25 := isEnd.short canonical
  rcases eq_of_close (isShort.exponent_ge_of_close isEnd close canonical)
    (isShort.exponent_le positive canonical) digits order isEnd.odd short close with
    equal | ⟨-, isCount, isHalf⟩ | ⟨-, isCount, isHalf⟩
  · -- A decimal in the middle between two values is found exactly.
    have small : scaled.exponent.natAbs ≤ 22 := by
      rcases exponent with isExponent | isSmall
      · have bound := natAbs_le_of_eq digits order short equal
        omega
      · exact isSmall
    have rounding := approximates.rounded small
    rw [same] at rounding
    have exact := rounding.eq_of_short (short.trans (by norm_num)) equal
    rw [exact] at outside
    exact outside isShort.inside
  · exact notHard (mem_hardCases_of_isEnd isEnd (.inl ⟨isCount, isHalf⟩))
  · exact notHard (mem_hardCases_of_isEnd isEnd (.inr ⟨isCount, isHalf⟩))

theorem number_scaled (layout : Layout) (decimal : Decimal) :
    (scaled layout decimal).number = decimal.number := by
  rw [scaled]
  split
  · next positional =>
    have up : 0 ≤ decimal.exponent := by simpa using (Bool.and_eq_true_iff.1 positional).2
    have power : (10 : ℚ) ^ decimal.exponent = 10 ^ decimal.exponent.toNat := by
      rw [← zpow_natCast, Int.toNat_of_nonneg up]
    rw [Numeral.Scaled.number, number, power]
    push_cast
    norm_num
    ring
  · rfl

theorem exponent_scaled (layout : Layout) (decimal : Decimal) :
    (scaled layout decimal).exponent = decimal.exponent ∨
      (scaled layout decimal).exponent.natAbs ≤ 22 := by
  rw [scaled]
  split
  · exact .inr (show (-1 : ℤ).natAbs ≤ 22 by decide)
  · exact .inl rfl

theorem lt_pow_length (digits : ℕ) : digits < 10 ^ (digitChars digits).length :=
  (Nat.length_toDigits_le_iff (by decide) Nat.length_toDigits_pos).1 le_rfl

/-- What is taken from the text of a single fits into 53 bits. -/
theorem scaled_bounds (isShort : IsShort significand place decimal)
    (positive : 0 < significand) (canonical : BinaryFormat.single.Canonical significand place) :
    0 < (scaled Json.singleLayout decimal).significand ∧
      (scaled Json.singleLayout decimal).significand < 2 ^ 53 ∧
      (scaled Json.singleLayout decimal).exponent.natAbs ≤ 60 := by
  have some := isShort.digits_pos positive canonical
  have short := isShort.short
  rw [scaled]
  split
  · next whole =>
    have parts : (-6 ≤ decimal.leading ∧ decimal.leading ≤ 12) ∧ 0 ≤ decimal.exponent := by
      simpa [Json.singleLayout] using whole
    rcases parts with ⟨⟨-, small⟩, up⟩
    rw [leading] at small
    have product : decimal.digits * 10 ^ decimal.exponent.toNat < 10 ^ 13 := by
      calc decimal.digits * 10 ^ decimal.exponent.toNat
          < 10 ^ (digitChars decimal.digits).length * 10 ^ decimal.exponent.toNat :=
            Nat.mul_lt_mul_of_pos_right (lt_pow_length _) (Nat.pow_pos (by decide))
        _ = 10 ^ ((digitChars decimal.digits).length + decimal.exponent.toNat) := by
            rw [Nat.pow_add]
        _ ≤ 10 ^ 13 := Nat.pow_le_pow_right (by decide) (by omega)
    dsimp only
    exact ⟨Nat.mul_pos (by decide) (Nat.mul_pos some (Nat.pow_pos (by decide))), by omega, by omega⟩
  · have above := isShort.above
    have below := isShort.exponent_le positive canonical
    dsimp only
    exact ⟨some, by omega, by omega⟩

theorem leading_bounds (isShort : IsShort significand place decimal)
    (positive : 0 < significand) (canonical : BinaryFormat.single.Canonical significand place) :
    decimal.leading.natAbs ≤ Numeral.exponentLimit := by
  have above := isShort.above
  have below := isShort.exponent_le positive canonical
  have short : (digitChars decimal.digits).length ≤ 11 :=
    (Nat.length_toDigits_le_iff (by decide) (by decide)).2 (isShort.short.trans_lt (by decide))
  rw [leading, Numeral.exponentLimit]
  omega

/-- The values that estimates leave over are read back too. -/
theorem hardCases_read : ∀ hard ∈ hardCases,
    (scaled Json.singleLayout (shortest .even .single hard.1 hard.2)).toDouble?.map
        (fun value => BinaryFormat.single.pattern (Double.value value)) =
      some (BinaryFormat.single.magnitudeBits hard.1 hard.2) := by
  decide +kernel

/-- A single is read back from the decimal that is written for it. -/
theorem exists_read (positive : 0 < significand)
    (canonical : BinaryFormat.single.Canonical significand place) :
    ∃ value mantissa exponent,
      (scaled Json.singleLayout (shortest .even .single significand place)).toDouble? = some value ∧
      Double.value value = .finite false mantissa exponent ∧ 2 ^ 52 ≤ mantissa ∧
      BinaryFormat.single.nearest mantissa exponent =
        BinaryFormat.single.magnitudeBits significand place := by
  have isShort := isShort_shortest .even positive canonical
  rcases scaled_bounds isShort positive canonical with ⟨some, short, moderate⟩
  rcases Numeral.Scaled.exists_toDouble? some short moderate with
    ⟨value, found, isValue, ⟨mantissa, exponent, isExact, long, -, rfl⟩, approximates⟩
  refine ⟨value, mantissa, exponent, isValue, isExact, long, ?_⟩
  by_cases hard : (significand, place) ∈ hardCases
  · have read := hardCases_read _ hard
    rw [isValue, Option.map_some, isExact, Option.some.injEq] at read
    exact read
  · exact nearest_of_holds positive canonical (by omega)
      (holds_of_approximates isShort positive canonical hard (number_scaled _ _)
        (exponent_scaled _ _) approximates)

end Decimal

end PhysicsScene
