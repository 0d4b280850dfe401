import PhysicsScene.Proofs.Number.Nearest

/-!
# Whole doubles

A finite value stands for an exact rational number, `BinaryValue.toRat?`, and a double other than
zero is told by it (`Double.eq_of_toRat?`). An integer becomes a double by rounding its magnitude
once, whatever its sign is, so an integer of at most 53 bits stays what it is.
-/

namespace PhysicsScene

namespace BinaryValue

/-- The exact number that a finite value stands for. -/
def toRat? : BinaryValue → Option ℚ
  | .finite negative significand place =>
      some ((if negative then -1 else 1) * (significand * 2 ^ place))
  | _ => none

theorem exists_finite_of_toRat? {value : BinaryValue} {exact : ℚ} (notZero : exact ≠ 0)
    (isExact : value.toRat? = some exact) :
    ∃ negative significand place, 0 < significand ∧
      value = .finite negative significand place ∧
        exact = (if negative then -1 else 1) * (significand * 2 ^ place) := by
  cases value with
  | nan => cases isExact
  | infinite negative => cases isExact
  | finite negative significand place =>
      refine ⟨negative, significand, place, Nat.pos_of_ne_zero ?_, rfl,
        (Option.some.inj isExact).symm⟩
      rintro rfl
      apply notZero
      simpa [toRat?] using (Option.some.inj isExact).symm

end BinaryValue

namespace BinaryFormat

theorem infinityBits_lt_signBit (format : BinaryFormat) :
    format.infinityBits < format.signBit := by
  rw [signBit_eq, Nat.mul_succ, infinityBits, Nat.mul_comm]
  exact Nat.lt_add_of_pos_right format.exponentUnit_pos

theorem value_ne_nan_of_le {format : BinaryFormat} {bits : ℕ}
    (bounded : bits ≤ format.infinityBits) : format.value bits ≠ .nan := by
  have below := bounded.trans_lt format.infinityBits_lt_signBit
  obtain ⟨fraction, biased, negative, short, range, isBits⟩ :=
    exists_fields (show bits < 2 * format.signBit by omega)
  rw [isBits, value_fields short range]
  intro isNaN
  split at isNaN
  · next highest =>
    split at isNaN
    · cases isNaN
    · next notZero =>
      rw [isBits, highest, infinityBits, Nat.mul_add, Nat.mul_comm format.highestField] at bounded
      omega
  · split at isNaN <;> cases isNaN

end BinaryFormat

namespace Double

theorem eq_of_toBits {first second : Float} (same : first.toBits = second.toBits) :
    first = second := by
  rcases first with ⟨bits, valid⟩
  rcases second with ⟨otherBits, otherValid⟩
  cases same
  rfl

theorem canonical_of_value {number : Float} {negative : Bool} {significand : ℕ} {place : ℤ}
    (isValue : value number = .finite negative significand place) :
    BinaryFormat.double.Canonical significand place ∧
      number.toBits.toNat = BinaryFormat.double.magnitudeBits significand place +
        if negative then BinaryFormat.double.signBit else 0 :=
  BinaryFormat.canonical_of_value (by decide) number.toBits.toNat_lt isValue

/-- No two doubles stand for one number, except for the two zeros. -/
theorem eq_of_toRat? {first second : Float} {exact : ℚ} (notZero : exact ≠ 0)
    (isFirst : (value first).toRat? = some exact) (isSecond : (value second).toRat? = some exact) :
    first = second := by
  rcases BinaryValue.exists_finite_of_toRat? notZero isSecond with
    ⟨otherNegative, otherSignificand, otherPlace, -, secondValue, same⟩
  rcases BinaryValue.exists_finite_of_toRat? notZero isFirst with
    ⟨negative, significand, place, positive, firstValue, rfl⟩
  have magnitude : (0 : ℚ) < significand * 2 ^ place := by positivity
  have otherMagnitude : (0 : ℚ) ≤ otherSignificand * 2 ^ otherPlace := by positivity
  have sign : negative = otherNegative ∧
      (significand : ℚ) * 2 ^ place = otherSignificand * 2 ^ otherPlace := by
    cases negative <;> cases otherNegative <;> simp at same ⊢ <;> linarith
  rcases sign with ⟨rfl, sameMagnitude⟩
  rcases canonical_of_value firstValue with ⟨canonical, bits⟩
  rcases canonical_of_value secondValue with ⟨otherCanonical, otherBits⟩
  -- Both canonical pairs are what the conversion makes of the one magnitude.
  have own := BinaryFormat.nearest_of_canonical positive canonical rfl
  have other := BinaryFormat.nearest_of_canonical positive otherCanonical sameMagnitude
  apply eq_of_toBits
  apply UInt64.toNat_inj.1
  rw [bits, otherBits, ← own, ← other]

/-- The opposite integer becomes the opposite double. -/
theorem value_ofInt_neg {whole significand : ℕ} {place : ℤ} (positive : 0 < whole)
    (isValue : value (ofInt whole) = .finite false significand place) :
    value (ofInt (-whole)) = .finite true significand place := by
  have infinity : BinaryFormat.double.infinityBits = 9218868437227405312 := by decide
  have sign : BinaryFormat.double.signBit = 9223372036854775808 := by decide
  have isNegative : decide (-(whole : ℤ) < 0) = true := by simp [positive]
  have bounded := BinaryFormat.double.nearest_le_infinityBits whole 0
  have opposite : ofInt (-whole) = Float.ofBits (UInt64.ofNat
      (BinaryFormat.double.nearest whole 0 + BinaryFormat.double.signBit)) := by
    simp only [ofInt, ofValue, BinaryFormat.pattern, isNegative, Int.natAbs_neg, Int.natAbs_natCast,
      if_true]
  rw [ofInt_natCast, value_ofBits_ofNat (by omega) (BinaryFormat.value_ne_nan_of_le bounded)]
    at isValue
  rcases BinaryFormat.canonical_of_value (by decide) (by omega) isValue with ⟨canonical, isBits⟩
  have negated := BinaryFormat.value_magnitudeBits canonical true
  rw [if_neg Bool.false_ne_true, Nat.add_zero] at isBits
  rw [if_pos rfl, ← isBits] at negated
  rw [opposite, value_ofBits_ofNat (by omega) (by simp [negated]), negated]

variable {value : ℤ}

/-- The magnitude of an integer is rounded once, and the sign is kept. -/
theorem exists_toRat?_ofInt (notZero : value ≠ 0) (below : value.natAbs < 2 ^ 64) :
    ∃ rounded, IsRounding value.natAbs rounded ∧
      (Double.value (ofInt value)).toRat? = some (value.sign * rounded) := by
  have positive : 0 < value.natAbs := Int.natAbs_pos.2 notZero
  rcases exists_is_ofInt positive (natCast_lt_of_lt below (by decide)) with
    ⟨_, ⟨significand, place, isValue, _, _, rfl⟩, rounding⟩
  refine ⟨_, rounding, ?_⟩
  rcases Int.natAbs_eq value with isPositive | isNegative
  · rw [← isPositive] at isValue
    simp [isValue, BinaryValue.toRat?, Int.sign_eq_one_of_pos (show 0 < value by omega)]
  · have isNegated := value_ofInt_neg positive isValue
    rw [← isNegative] at isNegated
    simp [isNegated, BinaryValue.toRat?, Int.sign_eq_neg_one_of_neg (show value < 0 by omega)]

/-- An integer of at most 53 bits is a double itself. -/
theorem toRat?_ofInt_of_short (notZero : value ≠ 0) (short : value.natAbs < 2 ^ 53) :
    (Double.value (ofInt value)).toRat? = some (value : ℚ) := by
  rcases exists_toRat?_ofInt notZero (short.trans (by decide)) with ⟨rounded, rounding, isExact⟩
  have isWhole : (value.natAbs : ℚ) = value.natAbs * 2 ^ (0 : ℤ) := by simp
  rw [isExact, rounding.eq_of_short short isWhole, ← Int.cast_natCast, ← Int.cast_mul,
    Int.sign_mul_natAbs]

/-- A longer integer that is rounded to an integer is not rounded to a short one. -/
theorem natAbs_ge_of_long {whole : ℤ} (long : 2 ^ 53 ≤ value.natAbs) (below : value.natAbs < 2 ^ 64)
    (isWhole : (Double.value (ofInt value)).toRat? = some (whole : ℚ)) :
    2 ^ 52 ≤ whole.natAbs := by
  have notZero : value ≠ 0 := by omega
  rcases exists_toRat?_ofInt notZero below with ⟨rounded, rounding, isRounded⟩
  rw [isRounded, Option.some.injEq] at isWhole
  have longRat : ((2 ^ 53 : ℕ) : ℚ) ≤ value.natAbs := by exact_mod_cast long
  have near := (abs_le.1 rounding.abs_sub_le).1
  push_cast at longRat
  have isLong : ((2 ^ 52 : ℕ) : ℚ) ≤ rounded := by
    push_cast
    linarith
  have sign : |(value.sign : ℚ)| = 1 := by
    rcases lt_or_gt_of_ne notZero with negative | positive
    · simp [Int.sign_eq_neg_one_of_neg negative]
    · simp [Int.sign_eq_one_of_pos positive]
  have same : (whole.natAbs : ℚ) = |rounded| := by
    rw [Nat.cast_natAbs, Int.cast_abs, ← isWhole, abs_mul, sign, one_mul]
  have bound := isLong.trans (le_abs_self rounded)
  rw [← same] at bound
  exact_mod_cast bound

end Double

end PhysicsScene
