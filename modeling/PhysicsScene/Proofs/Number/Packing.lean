import PhysicsScene.Proofs.Number

/-!
# Bit patterns of the standard library

The standard library computes with floats by unpacking their bit patterns into a sign, a mantissa
and an exponent. `BinaryFormat.ofUnpacked` reads an unpacked float as an exact value, and unpacking
a pattern gives the value that `BinaryFormat.value` reads from it (`value_toNat`). So what the
operations of the standard library do is known in terms of exact values.
-/

namespace PhysicsScene

open Float.Model (UnpackedFloat)
open Float.Model.UnpackedFloat

namespace BinaryFormat

/-- A format of the standard library, by the widths of its fields. -/
def ofModel (format : Float.Model.Format) : BinaryFormat :=
  ⟨format.mantissaBitsWithoutImplicit, format.exponentBits⟩

/-- Whether a sign is the negative one. -/
def isNegative : Sign → Bool
  | .negative => true
  | .positive => false

/-- The exact value of an unpacked float. -/
def ofUnpacked (format : BinaryFormat) : UnpackedFloat → BinaryValue
  | .notANumber => .nan
  | .infinity sign => .infinite (isNegative sign)
  | .zero sign => .finite (isNegative sign) 0 format.lowestExponent
  | .finite sign mantissa exponent _ => .finite (isNegative sign) mantissa exponent

variable {format : Float.Model.Format}

theorem toNat_unpackMantissa (bits : BitVec format.numBits) :
    (unpackMantissa bits).toNat = bits.toNat % 2 ^ format.mantissaBitsWithoutImplicit := by
  have positive := format.hm
  simp only [unpackMantissa, BitVec.toNat_cast, BitVec.extractLsb_toNat, Nat.shiftRight_zero]
  congr 2
  omega

theorem toNat_unpackExponent (bits : BitVec format.numBits) :
    (unpackExponent bits).toNat =
      bits.toNat / 2 ^ format.mantissaBitsWithoutImplicit % 2 ^ format.exponentBits := by
  have positive := format.he
  simp only [unpackExponent, BitVec.toNat_cast, BitVec.extractLsb_toNat,
    Nat.shiftRight_eq_div_pow]
  congr 2
  omega

theorem toNat_unpackSign (bits : BitVec format.numBits) :
    (unpackSign bits).toNat =
      bits.toNat / 2 ^ (format.mantissaBitsWithoutImplicit + format.exponentBits) % 2 := by
  simp only [unpackSign, BitVec.toNat_cast, BitVec.extractLsb_toNat, Nat.shiftRight_eq_div_pow]
  congr 1
  have one : format.mantissaBitsWithoutImplicit + format.exponentBits -
    (format.mantissaBitsWithoutImplicit + format.exponentBits) + 1 = 1 := by omega
  rw [one]

theorem isNegative_ofBitVec (bit : BitVec 1) :
    isNegative (Sign.ofBitVec bit) = (bit.toNat == 1) := by
  rcases BitVec.eq_zero_or_eq_one bit with rfl | rfl <;> rfl

theorem append_one_toNat {width : Nat} (fraction : BitVec width) :
    (1#1 ++ fraction).toNat = 2 ^ width + fraction.toNat := by
  rw [BitVec.toNat_append, ← Nat.shiftLeft_add_eq_or_of_lt fraction.isLt]
  simp [Nat.shiftLeft_eq]

theorem lowestExponent_ofModel (format : Float.Model.Format) :
    (ofModel format).lowestExponent =
      1 - (format.exponentBias + format.mantissaBitsWithoutImplicit : Int) := by
  have positive : 1 ≤ 2 ^ (format.exponentBits - 1) := Nat.one_le_two_pow
  have cast : ((2 ^ (format.exponentBits - 1) - 1 : Nat) : Int) =
      ((2 ^ (format.exponentBits - 1) : Nat) : Int) - 1 := by omega
  simp only [lowestExponent, ofModel, Float.Model.Format.exponentBias, cast, Nat.pow_eq]
  omega

/-- A pattern stands for the exact value of what it unpacks to. -/
theorem value_toNat (bits : BitVec format.numBits) :
    (ofModel format).value bits.toNat =
      (ofModel format).ofUnpacked (UnpackedFloat.unpack format bits) := by
  have mantissa := toNat_unpackMantissa bits
  have exponent := toNat_unpackExponent bits
  have sign := toNat_unpackSign bits
  have unit : (ofModel format).exponentUnit = 2 ^ format.mantissaBitsWithoutImplicit := rfl
  have field : (ofModel format).highestField + 1 = 2 ^ format.exponentBits := by
    have positive : 1 ≤ 2 ^ format.exponentBits := Nat.one_le_two_pow
    simp only [highestField, ofModel, Nat.pow_eq]
    omega
  have negative : isNegative (Sign.ofBitVec (unpackSign bits)) =
      (bits.toNat / (ofModel format).signBit % 2 == 1) := by
    rw [isNegative_ofBitVec, sign]
    rfl
  have highest : (unpackExponent bits).toNat = (ofModel format).highestField ↔
      unpackExponent bits = -1#(format.exponentBits) := by
    rw [← BitVec.toNat_inj, BitVec.neg_one_eq_allOnes, BitVec.toNat_allOnes]
    rfl
  have lowest : (unpackExponent bits).toNat = 0 ↔
      unpackExponent bits = 0#(format.exponentBits) := by
    rw [← BitVec.toNat_inj, BitVec.toNat_zero]
  have noFraction : (unpackMantissa bits).toNat = 0 ↔
      unpackMantissa bits = 0#(format.mantissaBitsWithoutImplicit) := by
    rw [← BitVec.toNat_inj, BitVec.toNat_zero]
  simp only [value, unit, field, ← mantissa, ← exponent, ← negative, highest, lowest, noFraction,
    UnpackedFloat.unpack]
  split
  · split <;> rfl
  · next notHighest =>
    split
    · next isLowest =>
      have zero := lowest.2 isLowest
      split
      · next zeroFraction =>
        rw [noFraction.2 zeroFraction]
        rfl
      · rw [lowestExponent_ofModel, zero]
        simp only [ofUnpacked, BinaryValue.finite.injEq, true_and]
        omega
    · rw [lowestExponent_ofModel]
      simp only [ofUnpacked, append_one_toNat, BinaryValue.finite.injEq, true_and]
      omega

/-- A mantissa of full length whose exponent a format has room for. -/
structure Fits (format : Float.Model.Format) (mantissa : Nat) (exponent : Int) : Prop where
  low : 2 ^ format.mantissaBitsWithoutImplicit ≤ mantissa
  high : mantissa < 2 ^ (format.mantissaBitsWithoutImplicit + 1)
  above : 0 < exponent + format.exponentBias + format.mantissaBitsWithoutImplicit
  below : exponent + format.exponentBias + format.mantissaBitsWithoutImplicit + 1 <
    2 ^ format.exponentBits

theorem unpackSign_packComponents {sign : Sign} {exponent : BitVec format.exponentBits}
    {mantissa : BitVec format.mantissaBitsWithoutImplicit} :
    unpackSign (packComponents format sign exponent mantissa) = sign.toBitVec := by
  ext i small
  have zero : i = 0 := by omega
  subst zero
  simp [unpackSign, packComponents, BitVec.getLsbD_append, BitVec.getElem_append]

theorem ofBitVec_toBitVec (sign : Sign) : Sign.ofBitVec sign.toBitVec = sign := by
  cases sign <;> rfl

/-- Unpacking gives back what was packed, if it fits. -/
theorem unpack_pack {sign : Sign} {mantissa : Nat} {exponent : Int} (positive : 0 < mantissa)
    (fits : Fits format mantissa exponent) :
    UnpackedFloat.unpack format
      (UnpackedFloat.pack format (.finite sign mantissa exponent positive)) =
        .finite sign mantissa exponent positive := by
  have length : mantissa.log2 + 1 = format.mantissaBits := by
    have low := (Nat.le_log2 (by omega)).2 fits.low
    have high := (Nat.log2_lt (by omega)).2 fits.high
    rw [Float.Model.Format.mantissaBits]
    omega
  generalize field : (exponent + format.exponentBias + format.mantissaBitsWithoutImplicit).toNat =
    biased
  have above := fits.above
  have below : biased + 1 < 2 ^ format.exponentBits := by
    have asInt := fits.below
    have cast : ((2 ^ format.exponentBits : Nat) : Int) = 2 ^ format.exponentBits := by push_cast; rfl
    omega
  have fieldToNat : (BitVec.ofNat format.exponentBits biased).toNat = biased := by
    rw [BitVec.toNat_ofNat, Nat.mod_eq_of_lt (by omega)]
  have notZero : BitVec.ofNat format.exponentBits biased ≠ 0#(format.exponentBits) := by
    intro zero
    have numbers := congrArg BitVec.toNat zero
    rw [fieldToNat, BitVec.toNat_zero] at numbers
    omega
  have mantissaToNat : (1#1 ++ BitVec.ofNat format.mantissaBitsWithoutImplicit mantissa).toNat =
      mantissa := by
    have low := fits.low
    have high := fits.high
    rw [Nat.pow_succ] at high
    have quotient : mantissa / 2 ^ format.mantissaBitsWithoutImplicit = 1 :=
      Nat.div_eq_of_lt_le (by omega) (by omega)
    have whole := Nat.mod_add_div mantissa (2 ^ format.mantissaBitsWithoutImplicit)
    rw [quotient, Nat.mul_one] at whole
    rw [append_one_toNat, BitVec.toNat_ofNat]
    omega
  simp only [UnpackedFloat.pack, field, length, if_true]
  rw [if_neg (by omega), UnpackedFloat.unpack]
  simp only [unpackExponent_packComponents, unpackMantissa_packComponents,
    unpackSign_packComponents, ofNat_ne_highest (show ¬2 ^ format.exponentBits ≤ biased + 1 by omega),
    notZero, if_false, fieldToNat, mantissaToNat, ofBitVec_toBitVec]
  congr 1
  omega

theorem toBitVec_ofBitVec (bit : BitVec 1) : (Sign.ofBitVec bit).toBitVec = bit := by
  rcases BitVec.eq_zero_or_eq_one bit with rfl | rfl <;> rfl

theorem packComponents_unpack (bits : BitVec format.numBits) :
    packComponents format (Sign.ofBitVec (unpackSign bits)) (unpackExponent bits)
      (unpackMantissa bits) = bits := by
  simp only [packComponents, toBitVec_ofBitVec, unpackSign, unpackExponent,
    unpackMantissa, BitVec.extractLsb]
  have mantissaBits := format.hm
  have exponentBits := format.he
  ext i small
  grind

theorem packComponents_of_eq {bits : BitVec format.numBits} {exponent : BitVec format.exponentBits}
    {mantissa : BitVec format.mantissaBitsWithoutImplicit} (isExponent : unpackExponent bits = exponent)
    (isMantissa : unpackMantissa bits = mantissa) :
    packComponents format (Sign.ofBitVec (unpackSign bits)) exponent mantissa = bits := by
  rw [← isExponent, ← isMantissa, packComponents_unpack]

/-- Packing gives back what was unpacked, if exponents have more than one bit. -/
theorem pack_unpack (wide : 2 ≤ format.exponentBits) {bits : BitVec format.numBits}
    (valid : format.Valid bits) :
    UnpackedFloat.pack format (UnpackedFloat.unpack format bits) = bits := by
  have mantissaSmall := (unpackMantissa bits).isLt
  have exponentSmall := (unpackExponent bits).isLt
  rw [UnpackedFloat.unpack]
  split
  · next highest =>
    split
    · next infinite => exact packComponents_of_eq highest infinite
    · next isNaN => exact (valid.eq_packedNaN highest isNaN).symm
  · next notHighest =>
    split
    · next lowest =>
      split
      · next zero => exact packComponents_of_eq lowest zero
      · next notZero =>
        have short : (unpackMantissa bits).toNat.log2 + 1 ≠ format.mantissaBits := by
          have positive : (unpackMantissa bits).toNat ≠ 0 := by
            rwa [← BitVec.toNat_zero, ne_eq, BitVec.toNat_inj]
          have below := (Nat.log2_lt positive).2 mantissaSmall
          rw [Float.Model.Format.mantissaBits]
          omega
        have room : ¬2 ^ format.exponentBits ≤ 1 + 1 := by
          have four := Nat.pow_le_pow_right Nat.zero_lt_two wide
          omega
        have field : ((unpackExponent bits).toNat -
            (format.exponentBias + format.mantissaBitsWithoutImplicit : Int) + 1 +
              format.exponentBias + format.mantissaBitsWithoutImplicit).toNat = 1 := by
          rw [lowest, BitVec.toNat_zero]
          omega
        simp only [UnpackedFloat.pack, field, room, short, if_false, BitVec.ofNat_toNat,
          BitVec.setWidth_eq]
        exact packComponents_of_eq lowest rfl
    · next notLowest =>
      have notLast : (unpackExponent bits).toNat + 1 < 2 ^ format.exponentBits := by
        have other : (unpackExponent bits).toNat ≠ 2 ^ format.exponentBits - 1 := by
          rwa [← BitVec.toNat_allOnes, ← BitVec.neg_one_eq_allOnes, ne_eq, BitVec.toNat_inj]
        omega
      have number := append_one_toNat (unpackMantissa bits)
      have long : (1#1 ++ unpackMantissa bits).toNat.log2 + 1 = format.mantissaBits := by
        have atLeast := (Nat.le_log2 (by omega)).2 (number ▸ Nat.le_add_right _ _)
        have below : (1#1 ++ unpackMantissa bits).toNat.log2 <
            format.mantissaBitsWithoutImplicit + 1 := by
          rw [Nat.log2_lt (by omega), Nat.pow_succ]
          omega
        rw [Float.Model.Format.mantissaBits]
        omega
      have field : ((unpackExponent bits).toNat -
          (format.exponentBias + format.mantissaBitsWithoutImplicit : Int) +
            format.exponentBias + format.mantissaBitsWithoutImplicit).toNat =
          (unpackExponent bits).toNat := by
        omega
      have fraction : BitVec.ofNat format.mantissaBitsWithoutImplicit
          (1#1 ++ unpackMantissa bits).toNat = unpackMantissa bits := by
        apply BitVec.eq_of_toNat_eq
        rw [BitVec.toNat_ofNat, number, Nat.add_mod_left, Nat.mod_eq_of_lt mantissaSmall]
      simp only [UnpackedFloat.pack, field, long, if_true, fraction, BitVec.ofNat_toNat,
        BitVec.setWidth_eq]
      rw [if_neg (by omega)]
      exact packComponents_of_eq rfl rfl

/-- Packing gives back what was unpacked from a pattern that is not NaN. -/
theorem pack_unpack_of_value (wide : 2 ≤ format.exponentBits) {bits : BitVec format.numBits}
    (isNumber : (ofModel format).value bits.toNat ≠ .nan) :
    UnpackedFloat.pack format (UnpackedFloat.unpack format bits) = bits := by
  have notNaN : ¬(UnpackedFloat.unpack format bits).isNaN = true := by
    intro isNaN
    rw [value_toNat] at isNumber
    generalize UnpackedFloat.unpack format bits = unpacked at isNumber isNaN
    cases unpacked with
    | notANumber => exact isNumber rfl
    | infinity sign => cases isNaN
    | zero sign => cases isNaN
    | finite sign mantissa exponent positive => cases isNaN
  exact pack_unpack wide
    ⟨fun highest notZero => absurd ((isNaN_unpack _).2 ⟨highest, notZero⟩) notNaN⟩

end BinaryFormat

namespace Single

/-- A number is what its pattern says. -/
theorem ofBits_toBits (number : Float32) : Float32.ofBits number.toBits = number := by
  have same : UnpackedFloat.pack .binary32
      (UnpackedFloat.unpack .binary32 number.toBits.toBitVec) = number.toBits.toBitVec :=
    BinaryFormat.pack_unpack (by decide) number.toModel.valid
  rcases number with ⟨bits, valid⟩
  simp only [Float32.ofBits, Float32.Model.ofBits, Float32.Model.pack, Float32.toBits] at same ⊢
  congr 2
  exact congrArg UInt32.ofBitVec same

/-- A pattern that is made for an exact value belongs to the number of that value. -/
theorem ofValue_eq {number : Float32} {value : BinaryValue}
    (pattern : BinaryFormat.single.pattern value = number.toBits.toNat) :
    ofValue value = number := by
  rw [ofValue, pattern, UInt32.ofNat_toNat, ofBits_toBits]

theorem value_ofBits {bits : UInt32} (isNumber : BinaryFormat.single.value bits.toNat ≠ .nan) :
    value (Float32.ofBits bits) = BinaryFormat.single.value bits.toNat := by
  have packed : UnpackedFloat.pack .binary32 (UnpackedFloat.unpack .binary32 bits.toBitVec) =
      bits.toBitVec :=
    BinaryFormat.pack_unpack_of_value (by decide) isNumber
  change BinaryFormat.single.value (UnpackedFloat.pack .binary32
    (UnpackedFloat.unpack .binary32 bits.toBitVec)).toNat = _
  rw [packed]
  rfl

/-- A number that is made of a pattern has the exact value of the pattern, unless that is NaN. -/
theorem value_ofBits_ofNat {bits : Nat} (bounded : bits < 2 ^ 32)
    (isNumber : BinaryFormat.single.value bits ≠ .nan) :
    value (Float32.ofBits (UInt32.ofNat bits)) = BinaryFormat.single.value bits := by
  have same : (UInt32.ofNat bits).toNat = bits := by
    rw [UInt32.toNat_ofNat', Nat.mod_eq_of_lt bounded]
  rw [value_ofBits, same]
  rwa [same]

end Single

namespace Double

/-- A pattern with a positive exact value unpacks to it. -/
theorem unpack_bits {bits : BitVec 64} {significand : Nat} {exponent : Int}
    (isValue : BinaryFormat.double.value bits.toNat = .finite false significand exponent)
    (positive : 0 < significand) :
    UnpackedFloat.unpack .binary64 bits = .finite .positive significand exponent positive := by
  have isExact : BinaryFormat.double.ofUnpacked (UnpackedFloat.unpack .binary64 bits) =
      .finite false significand exponent :=
    (@BinaryFormat.value_toNat .binary64 bits).symm.trans isValue
  generalize UnpackedFloat.unpack .binary64 bits = unpacked at isExact ⊢
  cases unpacked with
  | notANumber => cases isExact
  | infinity sign => cases isExact
  | zero sign =>
      simp only [BinaryFormat.ofUnpacked, BinaryValue.finite.injEq] at isExact
      omega
  | finite sign mantissa place positive =>
      cases sign with
      | negative => cases isExact
      | positive =>
          cases isExact
          rfl

theorem unpack_eq {number : Float} {significand : Nat} {exponent : Int}
    (isValue : value number = .finite false significand exponent) (positive : 0 < significand) :
    number.toModel.unpack = .finite .positive significand exponent positive :=
  unpack_bits isValue positive

/-- What is packed keeps its exact value, if it fits. -/
theorem value_pack {sign : Sign} {mantissa : Nat} {exponent : Int} (positive : 0 < mantissa)
    (fits : BinaryFormat.Fits .binary64 mantissa exponent) :
    value (.ofModel (.pack (.finite sign mantissa exponent positive))) =
      .finite (BinaryFormat.isNegative sign) mantissa exponent := by
  have unpacked : UnpackedFloat.unpack .binary64
      (UnpackedFloat.pack .binary64 (.finite sign mantissa exponent positive)) =
        .finite sign mantissa exponent positive :=
    BinaryFormat.unpack_pack positive fits
  have isValue := @BinaryFormat.value_toNat .binary64
    (UnpackedFloat.pack .binary64 (.finite sign mantissa exponent positive))
  rw [unpacked] at isValue
  exact isValue

theorem value_ofBits {bits : UInt64} (isNumber : BinaryFormat.double.value bits.toNat ≠ .nan) :
    value (Float.ofBits bits) = BinaryFormat.double.value bits.toNat := by
  have packed : UnpackedFloat.pack .binary64 (UnpackedFloat.unpack .binary64 bits.toBitVec) =
      bits.toBitVec :=
    BinaryFormat.pack_unpack_of_value (by decide) isNumber
  change BinaryFormat.double.value (UnpackedFloat.pack .binary64
    (UnpackedFloat.unpack .binary64 bits.toBitVec)).toNat = _
  rw [packed]
  rfl

/-- A number that is made of a pattern has the exact value of the pattern, unless that is NaN. -/
theorem value_ofBits_ofNat {bits : Nat} (bounded : bits < 2 ^ 64)
    (isNumber : BinaryFormat.double.value bits ≠ .nan) :
    value (Float.ofBits (UInt64.ofNat bits)) = BinaryFormat.double.value bits := by
  have same : (UInt64.ofNat bits).toNat = bits := by
    rw [UInt64.toNat_ofNat', Nat.mod_eq_of_lt bounded]
  rw [value_ofBits, same]
  rwa [same]

end Double

end PhysicsScene
