import Mathlib
import PhysicsScene.Json.Value

/-!
# Numbers stay numbers

Only a pattern with the highest exponent field and a fraction that is not zero is NaN. A conversion
never makes such a pattern of an exact number: what it makes is at most the pattern of infinity,
with or without the sign bit. A number of a document is finite, so its single-precision value is
never NaN, although it may be infinite or zero.
-/

namespace PhysicsScene

namespace BinaryFormat

theorem nearest_le_infinityBits (format : BinaryFormat) (significand : Nat) (exponent : Int) :
    format.nearest significand exponent ≤ format.infinityBits := by
  simp only [nearest]
  split
  · exact Nat.zero_le _
  · exact Nat.min_le_left _ _

/-- The pattern of a number is at most that of infinity, apart from the sign bit. -/
theorem exists_pattern_eq (format : BinaryFormat) {value : BinaryValue} (isNumber : value ≠ .nan) :
    ∃ magnitude ≤ format.infinityBits,
      format.pattern value = magnitude ∨ format.pattern value = magnitude + format.signBit := by
  cases value with
  | nan => exact absurd rfl isNumber
  | infinite negative =>
      refine ⟨format.infinityBits, Nat.le_refl _, ?_⟩
      cases negative with
      | false => exact .inl rfl
      | true => exact .inr rfl
  | finite negative significand exponent =>
      refine ⟨_, format.nearest_le_infinityBits significand exponent, ?_⟩
      cases negative with
      | false => exact .inl rfl
      | true => exact .inr rfl

end BinaryFormat

section Packing

open Float.Model Float.Model.UnpackedFloat

variable {format : Float.Model.Format}

theorem isNaN_unpack (bits : BitVec format.numBits) :
    (UnpackedFloat.unpack format bits).isNaN = true ↔
      unpackExponent bits = -1#(format.exponentBits) ∧
        unpackMantissa bits ≠ 0#(format.mantissaBitsWithoutImplicit) := by
  simp only [UnpackedFloat.unpack]
  split
  · next highest =>
    split
    · next zero => simp [UnpackedFloat.isNaN, zero]
    · next notZero => simp [UnpackedFloat.isNaN, highest, notZero]
  · next lower =>
    split
    · split
      · simp [UnpackedFloat.isNaN, lower]
      · simp [UnpackedFloat.isNaN, lower]
    · simp [UnpackedFloat.isNaN, lower]

theorem ofNat_ne_highest {field : Nat} (below : ¬2 ^ format.exponentBits ≤ field + 1) :
    BitVec.ofNat format.exponentBits field ≠ -1#(format.exponentBits) := by
  intro same
  have numbers := congrArg BitVec.toNat same
  rw [BitVec.toNat_ofNat, Nat.mod_eq_of_lt (by omega), BitVec.neg_one_eq_allOnes,
    BitVec.toNat_allOnes] at numbers
  omega

/-- Packing a number gives a pattern that is a number. -/
theorem isNaN_unpack_pack {value : UnpackedFloat} (isNumber : value.isNaN = false) :
    (UnpackedFloat.unpack format (UnpackedFloat.pack format value)).isNaN = false := by
  have zeroField : 0#(format.exponentBits) ≠ -1#(format.exponentBits) := by
    apply ofNat_ne_highest
    have two := Nat.pow_le_pow_right Nat.zero_lt_two format.he
    omega
  rw [Bool.eq_false_iff, ne_eq, isNaN_unpack]
  rintro ⟨highest, notZero⟩
  cases value with
  | notANumber => cases isNumber
  | infinity sign =>
      apply notZero
      simp [UnpackedFloat.pack, packedInfinity, unpackMantissa_packComponents]
  | zero sign =>
      apply zeroField
      simpa [UnpackedFloat.pack, packedZero, unpackExponent_packComponents] using highest
  | finite sign mantissa exponent positive =>
      simp only [UnpackedFloat.pack] at highest notZero
      split at highest
      · next tooLarge =>
        rw [if_pos tooLarge] at notZero
        apply notZero
        simp [packedInfinity, unpackMantissa_packComponents]
      · next below =>
        split at highest
        · rw [unpackExponent_packComponents] at highest
          exact ofNat_ne_highest below highest
        · rw [unpackExponent_packComponents] at highest
          exact zeroField highest

end Packing

namespace Single

open Float.Model Float.Model.UnpackedFloat

theorem isNaN_ofBits {bits : UInt32}
    (isNumber : bits.toNat / 2 ^ 23 % 2 ^ 8 = 2 ^ 8 - 1 → bits.toNat % 2 ^ 23 = 0) :
    (Float32.ofBits bits).isNaN = false := by
  apply isNaN_unpack_pack
  rw [Bool.eq_false_iff, ne_eq, isNaN_unpack]
  rintro ⟨highest, notZero⟩
  apply notZero
  have field := congrArg BitVec.toNat highest
  apply BitVec.eq_of_toNat_eq
  simp [unpackExponent, unpackMantissa, BitVec.extractLsb_toNat, Nat.shiftRight_eq_div_pow]
    at field ⊢
  exact isNumber field

/-- An exact number is never turned into NaN. -/
theorem isNaN_ofValue {value : BinaryValue} (isNumber : value ≠ .nan) :
    (ofValue value).isNaN = false := by
  rcases BinaryFormat.single.exists_pattern_eq isNumber with ⟨magnitude, bounded, pattern⟩
  apply isNaN_ofBits
  have infinity : BinaryFormat.single.infinityBits = 2139095040 := by decide
  have sign : BinaryFormat.single.signBit = 2147483648 := by decide
  rw [UInt32.toNat_ofNat']
  rcases pattern with pattern | pattern
  · rw [pattern]
    omega
  · rw [pattern]
    omega

end Single

namespace Double

open Float.Model Float.Model.UnpackedFloat

theorem isNaN_ofBits {bits : UInt64}
    (isNumber : bits.toNat / 2 ^ 52 % 2 ^ 11 = 2 ^ 11 - 1 → bits.toNat % 2 ^ 52 = 0) :
    (Float.ofBits bits).isNaN = false := by
  apply isNaN_unpack_pack
  rw [Bool.eq_false_iff, ne_eq, isNaN_unpack]
  rintro ⟨highest, notZero⟩
  apply notZero
  have field := congrArg BitVec.toNat highest
  apply BitVec.eq_of_toNat_eq
  simp [unpackExponent, unpackMantissa, BitVec.extractLsb_toNat, Nat.shiftRight_eq_div_pow]
    at field ⊢
  exact isNumber field

theorem isNaN_ofValue {value : BinaryValue} (isNumber : value ≠ .nan) :
    (ofValue value).isNaN = false := by
  rcases BinaryFormat.double.exists_pattern_eq isNumber with ⟨magnitude, bounded, pattern⟩
  apply isNaN_ofBits
  have infinity : BinaryFormat.double.infinityBits = 9218868437227405312 := by decide
  have sign : BinaryFormat.double.signBit = 9223372036854775808 := by decide
  rw [UInt64.toNat_ofNat']
  rcases pattern with pattern | pattern
  · rw [pattern]
    omega
  · rw [pattern]
    omega

theorem value_ne_nan {number : Float} (isNumber : number.isNaN = false) : value number ≠ .nan := by
  intro isNaN
  have notNaN : ¬(UnpackedFloat.unpack .binary64 number.toBits.toBitVec).isNaN = true :=
    Bool.eq_false_iff.1 isNumber
  apply notNaN
  rw [isNaN_unpack]
  have unit : BinaryFormat.double.exponentUnit = 2 ^ 52 := rfl
  have field : BinaryFormat.double.highestField = 2 ^ 11 - 1 := rfl
  simp only [value, BinaryFormat.value, unit, field] at isNaN
  split at isNaN
  · next highest =>
    split at isNaN
    · cases isNaN
    · next notZero =>
      refine ⟨BitVec.eq_of_toNat_eq ?_, fun zero => notZero ?_⟩
      · simpa [unpackExponent, BitVec.extractLsb_toNat, Nat.shiftRight_eq_div_pow] using highest
      · simpa [unpackMantissa, BitVec.extractLsb_toNat] using congrArg BitVec.toNat zero
  · split at isNaN
    · cases isNaN
    · cases isNaN

end Double

namespace Number

theorem isNaN_toDouble (number : Number) : number.toDouble.isNaN = false := by
  cases number with
  | integer value inRange =>
      apply Double.isNaN_ofValue
      intro isNaN
      cases isNaN
  | real value finite =>
      simp only [toDouble, Float.isNaN, Float.Model.isNaN]
      simp only [Float.isFinite, Float.Model.isFinite] at finite
      cases unpacked : value.toModel.unpack with
      | notANumber => simp [unpacked, Float.Model.UnpackedFloat.isFinite] at finite
      | _ => rfl

/-- A size or a property is never NaN. -/
theorem isNaN_toSingleByDouble (number : Number) : number.toSingleByDouble.isNaN = false :=
  Single.isNaN_ofValue (Double.value_ne_nan number.isNaN_toDouble)

end Number

end PhysicsScene
