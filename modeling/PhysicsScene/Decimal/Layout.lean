import PhysicsScene.Decimal.Shortest

/-!
# Writing decimals

A `Decimal.Layout` holds the choices that a number format makes: which values are written in
positional form, whether a whole number keeps a fraction, and which way a tie goes. Everything
else is common: fewest digits, a minus sign for a negative zero too, and `d.dde+XX` outside the
positional range. `Decimal.fixedChars` writes a given number of places instead.
-/

namespace PhysicsScene

namespace Decimal

/-- The choices of a number format. -/
structure Layout where
  /-- Whether a number with this exponent of the leading digit is written in positional form. -/
  positional : Int → Bool
  /-- Whether a whole number in positional form is written with `.0`. -/
  keepsFraction : Bool
  /-- Which of two equally near decimals of fewest digits is written. -/
  tie : Tie

/-- The decimal digits of a natural number. -/
def digitChars (value : Nat) : List Char :=
  Nat.toDigits 10 value

/-- The decimal text of an integer. -/
def integerChars : Int → List Char
  | .ofNat value => digitChars value
  | .negSucc value => '-' :: digitChars (value + 1)

namespace Layout

/-- Positional form: the point stands after the digit of weight one. -/
def positionalChars (layout : Layout) (digits : List Char) (exponent : Int) : List Char :=
  if 0 ≤ exponent then
    digits ++ List.replicate exponent.toNat '0' ++ if layout.keepsFraction then ['.', '0'] else []
  else
    let places := (-exponent).toNat
    if places < digits.length then
      digits.take (digits.length - places) ++ '.' :: digits.drop (digits.length - places)
    else
      '0' :: '.' :: List.replicate (places - digits.length) '0' ++ digits

/-- Scientific form: one digit before the point and a signed exponent. -/
def scientificChars (digits : List Char) (leading : Int) : List Char :=
  let exponentSign := if leading < 0 then '-' else '+'
  let fraction := if digits.length ≤ 1 then [] else '.' :: digits.drop 1
  digits.take 1 ++ fraction ++ 'e' :: exponentSign :: digitChars leading.natAbs

/-- The text of a decimal in a layout. -/
def chars (layout : Layout) (decimal : Decimal) : List Char :=
  let digits := digitChars decimal.digits
  let leading := decimal.exponent + digits.length - 1
  if layout.positional leading then layout.positionalChars digits decimal.exponent
  else scientificChars digits leading

end Layout

/-- The text of a magnitude of a binary format with the fewest digits that read back. -/
def magnitudeChars (layout : Layout) (format : BinaryFormat) (significand : Nat)
    (exponent : Int) : List Char :=
  if significand = 0 then '0' :: if layout.keepsFraction then ['.', '0'] else []
  else layout.chars (shortest layout.tie format significand exponent)

/-- The text of a finite value; NaN and the infinities have none here. -/
def finiteChars? (layout : Layout) (format : BinaryFormat) : BinaryValue → Option (List Char)
  | .nan => none
  | .infinite _ => none
  | .finite negative significand exponent =>
      some ((if negative then ['-'] else []) ++
        magnitudeChars layout format significand exponent)

/--
Plain notation for messages: never an exponent, whole numbers without a fraction, and a tie goes
away from zero.
-/
def plain : Layout := ⟨fun _ => true, false, .upper⟩

/-- The text of a value in a message, where NaN and the infinities are written as words. -/
def messageChars (format : BinaryFormat) : BinaryValue → List Char
  | .nan => ['N', 'a', 'N']
  | .infinite negative => (if negative then ['-'] else []) ++ ['i', 'n', 'f']
  | .finite negative significand exponent =>
      (if negative then ['-'] else []) ++ magnitudeChars plain format significand exponent

/-- A magnitude with a fixed number of places, rounded from its exact value, half to even. -/
def fixedMagnitudeChars (places : Nat) (significand : Nat) (exponent : Int) : List Char :=
  let scaled :=
    roundedQuotient (significand * Nat.pow 10 places * Nat.pow 2 exponent.toNat)
      (Nat.pow 2 (-exponent).toNat)
  let digits := digitChars scaled
  let padded := List.replicate (places + 1 - digits.length) '0' ++ digits
  padded.take (padded.length - places) ++ '.' :: padded.drop (padded.length - places)

/-- A value with a fixed number of places, as tables of positions show it. -/
def fixedChars (places : Nat) : BinaryValue → List Char
  | .nan => ['N', 'a', 'N']
  | .infinite negative => (if negative then ['-'] else []) ++ ['i', 'n', 'f']
  | .finite negative significand exponent =>
      (if negative then ['-'] else []) ++ fixedMagnitudeChars places significand exponent

end Decimal

end PhysicsScene
