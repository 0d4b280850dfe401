/-!
# Binary floating-point values as exact numbers

A finite value of a binary format is a whole significand times a power of two. Reading a bit
pattern (`BinaryFormat.value`) yields that exact number, and `BinaryFormat.nearest` goes back:
it gives the bit pattern nearest to any number of that form, with ties to the even pattern.
Every change of format in this library, from an integer or from one width to the other, is
`nearest` after `value`, so no conversion depends on an operation without a definition.
-/

namespace PhysicsScene

/-- The whole number nearest to a quotient; a half goes to the even neighbour. -/
def roundedQuotient (numerator denominator : Nat) : Nat :=
  let quotient := numerator / denominator
  let remainder := numerator % denominator
  if 2 * remainder < denominator then quotient
  else if denominator < 2 * remainder then quotient + 1
  else quotient + quotient % 2

/-- The widths of the two fields that follow the sign bit. -/
structure BinaryFormat where
  fractionBits : Nat
  exponentBits : Nat
deriving DecidableEq, Repr

/-- What a bit pattern stands for; a finite magnitude is `significand * 2 ^ exponent`. -/
inductive BinaryValue where
  | nan
  | infinite (negative : Bool)
  | finite (negative : Bool) (significand : Nat) (exponent : Int)
deriving DecidableEq, Repr

namespace BinaryFormat

/-- The 32-bit format. -/
def single : BinaryFormat := ⟨23, 8⟩

/-- The 64-bit format. -/
def double : BinaryFormat := ⟨52, 11⟩

/-- The exponent of the last place of the smallest positive value. -/
def lowestExponent (format : BinaryFormat) : Int :=
  2 - Nat.pow 2 (format.exponentBits - 1) - format.fractionBits

/-- The weight of the exponent field, which is also the lowest significand of a normal value. -/
def exponentUnit (format : BinaryFormat) : Nat :=
  Nat.pow 2 format.fractionBits

/-- The exponent field of infinity and NaN. -/
def highestField (format : BinaryFormat) : Nat :=
  Nat.pow 2 format.exponentBits - 1

/-- The bit pattern of positive infinity. -/
def infinityBits (format : BinaryFormat) : Nat :=
  format.highestField * format.exponentUnit

/-- The weight of the sign bit. -/
def signBit (format : BinaryFormat) : Nat :=
  Nat.pow 2 (format.fractionBits + format.exponentBits)

/-- The number a bit pattern stands for. -/
def value (format : BinaryFormat) (bits : Nat) : BinaryValue :=
  let fraction := bits % format.exponentUnit
  let biased := bits / format.exponentUnit % (format.highestField + 1)
  let negative := bits / format.signBit % 2 == 1
  if biased = format.highestField then
    if fraction = 0 then .infinite negative else .nan
  else if biased = 0 then
    .finite negative fraction format.lowestExponent
  else
    .finite negative (format.exponentUnit + fraction) (format.lowestExponent + biased - 1)

/-- The exponent of the last place in which a magnitude is kept. -/
def lastPlace (format : BinaryFormat) (significand : Nat) (exponent : Int) : Int :=
  max format.lowestExponent (exponent + Nat.log2 significand - format.fractionBits)

/--
The bit pattern, without sign, nearest to `significand * 2 ^ exponent`.

Patterns of one sign are ordered as their values are, and a significand that rounds up to the
next power of two carries into the exponent field, so adding the two fields is enough.
-/
def nearest (format : BinaryFormat) (significand : Nat) (exponent : Int) : Nat :=
  if significand = 0 then 0
  else
    let place := format.lastPlace significand exponent
    let kept :=
      if place ≤ exponent then significand * Nat.pow 2 (exponent - place).toNat
      else roundedQuotient significand (Nat.pow 2 (place - exponent).toNat)
    min format.infinityBits ((place - format.lowestExponent).toNat * format.exponentUnit + kept)

/-- The bit pattern nearest to a value that was read from any format. -/
def pattern (format : BinaryFormat) : BinaryValue → Nat
  | .nan => format.infinityBits + Nat.pow 2 (format.fractionBits - 1)
  | .infinite negative => format.infinityBits + if negative then format.signBit else 0
  | .finite negative significand exponent =>
      format.nearest significand exponent + if negative then format.signBit else 0

end BinaryFormat

namespace Single

/-- The exact value of a single-precision number. -/
def value (number : Float32) : BinaryValue :=
  BinaryFormat.single.value number.toBits.toNat

/-- The single-precision number nearest to an exact value. -/
def ofValue (value : BinaryValue) : Float32 :=
  Float32.ofBits (UInt32.ofNat (BinaryFormat.single.pattern value))

/-- The single-precision number nearest to an integer, rounded once. -/
def ofInt (value : Int) : Float32 :=
  ofValue (.finite (value < 0) value.natAbs 0)

/-- The single-precision number nearest to a double-precision one. -/
def ofDouble (number : Float) : Float32 :=
  ofValue (BinaryFormat.double.value number.toBits.toNat)

end Single

namespace Double

/-- The exact value of a double-precision number. -/
def value (number : Float) : BinaryValue :=
  BinaryFormat.double.value number.toBits.toNat

/-- The double-precision number nearest to an exact value. -/
def ofValue (value : BinaryValue) : Float :=
  Float.ofBits (UInt64.ofNat (BinaryFormat.double.pattern value))

/-- The double-precision number nearest to an integer. -/
def ofInt (value : Int) : Float :=
  ofValue (.finite (value < 0) value.natAbs 0)

/-- The double-precision number nearest to a power of ten. -/
def powerOfTen (exponent : Nat) : Float :=
  ofInt (Nat.pow 10 exponent)

end Double

end PhysicsScene
