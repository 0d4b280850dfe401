import PhysicsScene.Proofs.Number.CorrectRounding

/-!
# Conversions of numbers

A number of a document has a sign and an exact magnitude (`Number.IsExact`). The single that it
becomes is either this number rounded once, or the rounding of its double (`Number.RoundsTo`,
`Number.RoundsByDouble`). Both say what the single is without the conversions, which compute it.
-/

namespace PhysicsScene

open Float.Model (UnpackedFloat)

theorem BinaryValue.toRat?_eq_zero_iff (value : BinaryValue) :
    value.toRat? = some 0 ↔ ∃ negative place, value = .finite negative 0 place := by
  constructor
  · intro isZero
    cases value with
    | nan => cases isZero
    | infinite negative => cases isZero
    | finite negative significand place =>
        refine ⟨negative, place, ?_⟩
        have power : (2 : ℚ) ^ place ≠ 0 := zpow_ne_zero _ two_ne_zero
        cases negative <;> simpa [toRat?, power] using isZero
  · rintro ⟨negative, place, rfl⟩
    simp [toRat?]

namespace Single

theorem eq_of_toBits {first second : Float32} (same : first.toBits = second.toBits) :
    first = second := by
  rw [← ofBits_toBits first, ← ofBits_toBits second, same]

theorem rounds_iff (negative : Bool) (mantissa : ℕ) (exponent : ℤ) (number : Float32) :
    BinaryFormat.single.Rounds negative (mantissa * 2 ^ exponent) (value number) ↔
      number = ofValue (.finite negative mantissa exponent) := by
  have rounds := BinaryFormat.single.rounds_pattern (by decide) negative mantissa exponent
  have bounded : BinaryFormat.single.pattern (.finite negative mantissa exponent) < 2 ^ 32 :=
    BinaryFormat.pattern_lt nofun
  rw [← value_ofBits_ofNat bounded rounds.value_ne_nan] at rounds
  constructor
  · intro isNumber
    apply eq_of_toBits
    apply UInt32.toNat_inj.1
    exact isNumber.unique (by decide) (UInt32.toNat_lt _) (UInt32.toNat_lt _) rounds
  · rintro rfl
    exact rounds

/-- The exact value of the number is zero, whatever its sign is. -/
def IsZero (number : Float32) : Prop :=
  (value number).toRat? = some 0

/-- Exactly the two zeros are equal to zero. -/
theorem beq_zero_iff (number : Float32) : (number == 0) = true ↔ IsZero number := by
  have zero : (0 : Float32).toModel.unpack = .zero .positive := rfl
  have compared : (number == 0) = number.toModel.unpack.beq (0 : Float32).toModel.unpack := rfl
  have isValue : value number = BinaryFormat.single.ofUnpacked number.toModel.unpack :=
    @BinaryFormat.value_toNat .binary32 number.toBits.toBitVec
  rw [compared, zero, IsZero, isValue, BinaryValue.toRat?_eq_zero_iff]
  cases number.toModel.unpack with
  | notANumber => simp [UnpackedFloat.beq, UnpackedFloat.compare, BinaryFormat.ofUnpacked]
  | zero sign => simp [UnpackedFloat.beq, UnpackedFloat.compare, BinaryFormat.ofUnpacked]
  | infinity sign =>
      cases sign <;> simp [UnpackedFloat.beq, UnpackedFloat.compare, BinaryFormat.ofUnpacked]
  | finite sign mantissa exponent positive =>
      have notZero : mantissa ≠ 0 := by omega
      cases sign <;>
        simp [UnpackedFloat.beq, UnpackedFloat.compare, BinaryFormat.ofUnpacked, notZero]

end Single

namespace Double

theorem exists_value_of_isFinite {number : Float} (finite : number.isFinite = true) :
    ∃ negative significand place, value number = .finite negative significand place := by
  have isValue : value number = BinaryFormat.double.ofUnpacked number.toModel.unpack :=
    @BinaryFormat.value_toNat .binary64 number.toBits.toBitVec
  have isFinite : number.toModel.unpack.isFinite = true := finite
  rw [isValue]
  cases unpacked : number.toModel.unpack with
  | notANumber => simp [unpacked, UnpackedFloat.isFinite] at isFinite
  | infinity sign => simp [unpacked, UnpackedFloat.isFinite] at isFinite
  | zero sign => exact ⟨_, _, _, rfl⟩
  | finite sign mantissa exponent positive => exact ⟨_, _, _, rfl⟩

theorem rounds_iff (negative : Bool) (mantissa : ℕ) (exponent : ℤ) (number : Float) :
    BinaryFormat.double.Rounds negative (mantissa * 2 ^ exponent) (value number) ↔
      number = ofValue (.finite negative mantissa exponent) := by
  have rounds := BinaryFormat.double.rounds_pattern (by decide) negative mantissa exponent
  have bounded : BinaryFormat.double.pattern (.finite negative mantissa exponent) < 2 ^ 64 :=
    BinaryFormat.pattern_lt nofun
  rw [← value_ofBits_ofNat bounded rounds.value_ne_nan] at rounds
  constructor
  · intro isNumber
    apply eq_of_toBits
    apply UInt64.toNat_inj.1
    exact isNumber.unique (by decide) (UInt64.toNat_lt _) (UInt64.toNat_lt _) rounds
  · rintro rfl
    exact rounds

end Double

namespace Number

/-- The sign and the magnitude of a number. -/
inductive IsExact : Number → Bool → ℚ → Prop
  | integer (value : ℤ) (inRange : InRange value) :
      IsExact (.integer value inRange) (value < 0) value.natAbs
  | real {value : Float} (finite : value.isFinite = true) {negative : Bool} {significand : ℕ}
      {place : ℤ} (isValue : Double.value value = .finite negative significand place) :
      IsExact (.real value finite) negative (significand * 2 ^ place)

/-- The number is rounded to a single. -/
def RoundsTo (number : Number) (single : Float32) : Prop :=
  ∃ negative magnitude, number.IsExact negative magnitude ∧
    BinaryFormat.single.Rounds negative magnitude (Single.value single)

/-- The number is rounded to a double, and the double is rounded to a single. -/
def RoundsByDouble (number : Number) (single : Float32) : Prop :=
  ∃ negative magnitude significand place, number.IsExact negative magnitude ∧
    BinaryFormat.double.Rounds negative magnitude (.finite negative significand place) ∧
    BinaryFormat.single.Rounds negative (significand * 2 ^ place) (Single.value single)

theorem IsExact.unique {number : Number} {negative other : Bool} {magnitude otherMagnitude : ℚ}
    (isExact : number.IsExact negative magnitude)
    (isOther : number.IsExact other otherMagnitude) :
    negative = other ∧ magnitude = otherMagnitude := by
  cases isExact with
  | integer value inRange =>
      cases isOther
      exact ⟨rfl, rfl⟩
  | real finite isValue =>
      cases isOther with
      | real _ otherValue =>
          cases isValue.symm.trans otherValue
          exact ⟨rfl, rfl⟩

theorem exists_isExact (number : Number) :
    ∃ negative, ∃ significand : ℕ, ∃ place : ℤ,
      number.IsExact negative (significand * 2 ^ place) ∧
        number.toSingle = Single.ofValue (.finite negative significand place) := by
  cases number with
  | integer value inRange =>
      have isExact := IsExact.integer value inRange
      refine ⟨_, value.natAbs, 0, ?_, rfl⟩
      rwa [zpow_zero, mul_one]
  | real value finite =>
      rcases Double.exists_value_of_isFinite finite with ⟨negative, significand, place, isValue⟩
      exact ⟨negative, significand, place, .real finite isValue, congrArg Single.ofValue isValue⟩

theorem roundsTo_iff (number : Number) (single : Float32) :
    number.RoundsTo single ↔ single = number.toSingle := by
  rcases number.exists_isExact with ⟨negative, significand, place, isExact, converted⟩
  rw [converted, ← Single.rounds_iff]
  constructor
  · rintro ⟨_, _, otherExact, isRounded⟩
    rcases isExact.unique otherExact with ⟨rfl, rfl⟩
    exact isRounded
  · exact fun isRounded => ⟨_, _, isExact, isRounded⟩

theorem two_mul_natAbs_lt_limit {value : ℤ} (inRange : InRange value) :
    2 * (value.natAbs : ℚ) < BinaryFormat.double.limit := by
  have short : value.natAbs ≤ 2 ^ 64 := by
    unfold InRange at inRange
    omega
  have isLimit : BinaryFormat.double.limit = 2 ^ 1024 := rfl
  rw [isLimit]
  calc 2 * (value.natAbs : ℚ) ≤ 2 * 2 ^ 64 :=
        mul_le_mul_of_nonneg_left (by exact_mod_cast short) zero_le_two
    _ = 2 ^ 65 := (pow_succ' 2 64).symm
    _ < 2 ^ 1024 := pow_lt_pow_right₀ (by norm_num) (by norm_num)

/-- Every number has a nearest double, which is finite. -/
theorem exists_rounds_toDouble (number : Number) :
    ∃ negative magnitude significand place, number.IsExact negative magnitude ∧
      Double.value number.toDouble = .finite negative significand place ∧
      BinaryFormat.double.Rounds negative magnitude (.finite negative significand place) := by
  cases number with
  | integer value inRange =>
      have rounds := (Double.rounds_iff (value < 0) value.natAbs 0 (Double.ofInt value)).2 rfl
      rw [zpow_zero, mul_one] at rounds
      rcases rounds.exists_finite (Nat.cast_nonneg _) (two_mul_natAbs_lt_limit inRange) with
        ⟨significand, place, isValue⟩
      rw [isValue] at rounds
      exact ⟨_, _, _, _, .integer value inRange, isValue, rounds⟩
  | real value finite =>
      rcases Double.exists_value_of_isFinite finite with ⟨negative, significand, place, isValue⟩
      exact ⟨negative, _, significand, place, .real finite isValue, isValue,
        (Double.canonical_of_value isValue).1.rounds (by decide) negative⟩

theorem roundsByDouble_iff (number : Number) (single : Float32) :
    number.RoundsByDouble single ↔ single = number.toSingleByDouble := by
  rcases number.exists_rounds_toDouble with
    ⟨negative, magnitude, significand, place, isExact, isValue, rounds⟩
  have converted : number.toSingleByDouble =
      Single.ofValue (.finite negative significand place) := congrArg Single.ofValue isValue
  rw [converted, ← Single.rounds_iff]
  constructor
  · rintro ⟨_, _, other, otherPlace, otherExact, otherRounds, isRounded⟩
    rcases isExact.unique otherExact with ⟨rfl, rfl⟩
    rwa [(rounds.finite_unique otherRounds).2]
  · exact fun isRounded => ⟨_, _, _, _, isExact, rounds, isRounded⟩

end Number

end PhysicsScene
