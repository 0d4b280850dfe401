import PhysicsScene.Json.Reader
import PhysicsScene.Json.Value

/-!
# Numerals

A numeral is first taken apart into its digits and then evaluated. An integer of 64 bits keeps
its value. Any other numeral is a double that is found by a quick rule, not by correct rounding:
the digits that fit 64 bits form a significand, the rest only count towards the power of ten, and
one multiplication or division by a power of ten gives the value (two powers if the number is
very small). A value that is too large for a double makes the text malformed.
-/

namespace PhysicsScene

/-- The digits of a numeral, as written. -/
structure Numeral where
  negative : Bool
  whole : List Nat
  fraction : Option (List Nat)
  /-- The sign of the exponent and its digits. -/
  exponent : Option (Bool × List Nat)
deriving DecidableEq, Repr

namespace Numeral

/-- The value of a decimal digit. -/
def digit? (char : Char) : Option Nat :=
  if '0' ≤ char ∧ char ≤ '9' then some (char.toNat - '0'.toNat) else none

/-- Takes all digits off the front. -/
def digits : Reader (List Nat) :=
  fun text =>
    .ok ((text.takeWhile fun char => (digit? char).isSome).filterMap digit?,
      text.dropWhile fun char => (digit? char).isSome)

/-- Takes digits off, at least one; `atEnd` is the fault if the text ends before it. -/
def someDigits (atEnd : Fault) : Reader (List Nat) := do
  match ← Reader.peek with
  | none => Reader.fail atEnd
  | some char => if (digit? char).isSome then digits else Reader.fail .malformed

/-- The whole part: a single zero, or digits without a leading zero. -/
def wholePart (atEnd : Fault) : Reader (List Nat) := do
  match ← Reader.peek with
  | none => Reader.fail atEnd
  | some '0' => do
      Reader.drop
      match ← Reader.peek with
      | none => pure [0]
      | some char => if (digit? char).isSome then Reader.fail .malformed else pure [0]
  | some _ => someDigits atEnd

/-- The fraction, if a point follows. -/
def fractionPart (atEnd : Fault) : Reader (Option (List Nat)) := do
  match ← Reader.peek with
  | some '.' => do
      Reader.drop
      some <$> someDigits atEnd
  | _ => pure none

/-- The exponent, if its mark follows. -/
def exponentPart (atEnd : Fault) : Reader (Option (Bool × List Nat)) := do
  let mark ← Reader.peek
  if mark = some 'e' ∨ mark = some 'E' then do
    Reader.drop
    let sign ← Reader.peek
    if sign = some '+' ∨ sign = some '-' then Reader.drop
    let digits ← someDigits atEnd
    pure (some (sign = some '-', digits))
  else pure none

/-- A numeral; `atEnd` is the fault if the text ends inside it. -/
def read (atEnd : Fault) : Reader Numeral := do
  let negative := (← Reader.peek) = some '-'
  if negative then Reader.drop
  let whole ← wholePart atEnd
  let fraction ← fractionPart atEnd
  let exponent ← exponentPart atEnd
  pure { negative, whole, fraction, exponent }

/-- The number that a list of digits spells. -/
def ofDigits (digits : List Nat) : Nat :=
  digits.foldl (fun value digit => 10 * value + digit) 0

/-- A significand with a power of ten. -/
structure Scaled where
  significand : Nat
  exponent : Int
deriving DecidableEq, Repr

namespace Scaled

/-- Whether one more digit keeps the significand within 64 bits. -/
def fits (scaled : Scaled) (digit : Nat) : Bool :=
  10 * scaled.significand + digit < UInt64.size

/-- Adds digits of the whole part; from the first that does not fit on, they only count. -/
def addWhole (scaled : Scaled) : List Nat → Scaled
  | [] => scaled
  | digit :: rest =>
      if scaled.fits digit then
        addWhole { scaled with significand := 10 * scaled.significand + digit } rest
      else { scaled with exponent := scaled.exponent + (rest.length + 1) }

/-- Adds digits of the fraction up to the first that does not fit. -/
def addFraction (scaled : Scaled) : List Nat → Scaled
  | [] => scaled
  | digit :: rest =>
      if scaled.fits digit then
        addFraction ⟨10 * scaled.significand + digit, scaled.exponent - 1⟩ rest
      else scaled

/-- Brings the exponent within reach of one power of ten and applies it. -/
def applyExponent? (value : Float) (exponent : Int) : (divisions : Nat) → Option Float
  | 0 => some value
  | divisions + 1 =>
      if exponent.natAbs ≤ 308 then
        if 0 ≤ exponent then some (value * Double.powerOfTen exponent.natAbs)
        else some (value / Double.powerOfTen exponent.natAbs)
      else if value == 0 then some value
      else if 0 ≤ exponent then none
      else applyExponent? (value / Double.powerOfTen 308) (exponent + 308) divisions

/-- The double that the quick rule finds; two divisions bring every significand to zero. -/
def toDouble? (scaled : Scaled) : Option Float :=
  applyExponent? (Double.ofInt scaled.significand) scaled.exponent 4

end Scaled

/-- The largest written exponent that is added up; a larger one decides the value alone. -/
def exponentLimit : Nat := 2147483647

/-- The magnitude of a numeral that is no integer of 64 bits. -/
def magnitude? (numeral : Numeral) : Option Float :=
  let whole := (Scaled.mk 0 0).addWhole numeral.whole
  let scaled := whole.addFraction (numeral.fraction.getD [])
  match numeral.exponent with
  | none => scaled.toDouble?
  | some (below, digits) =>
      let written := ofDigits digits
      if exponentLimit < written then
        if scaled.significand = 0 || below then some 0 else none
      else if below then Scaled.toDouble? ⟨scaled.significand, scaled.exponent - written⟩
      else Scaled.toDouble? ⟨scaled.significand, scaled.exponent + written⟩

/-- The integer that a numeral spells; minus zero is none. -/
def integer? (numeral : Numeral) : Option Int :=
  if numeral.fraction.isSome || numeral.exponent.isSome then none
  else
    let value := ofDigits numeral.whole
    if numeral.negative then if value = 0 then none else some (-value) else some value

/-- The number as a double, if it is in range. -/
def real? (numeral : Numeral) : Option Number := do
  let magnitude ← numeral.magnitude?
  let value := if numeral.negative then -magnitude else magnitude
  if finite : value.isFinite = true then some (.real value finite) else none

/-- The number that a numeral stands for, if it is in range. -/
def value? (numeral : Numeral) : Option Number :=
  match numeral.integer? with
  | none => numeral.real?
  | some value =>
      if inRange : Number.InRange value then some (.integer value inRange) else numeral.real?

/-- Reads a number; one that is out of range breaks the grammar. -/
def number : Reader Number := do
  match (← read .truncated).value? with
  | some value => pure value
  | none => Reader.fail .malformed

end Numeral

end PhysicsScene
