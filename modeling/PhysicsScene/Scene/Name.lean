import PhysicsScene.Json.Printer

/-!
# Names of bodies

A body may be named by any JSON value, and the name is what a script would use as a key: a string
stands for itself, a number for its text, `true` for `true`. An empty string, zero, and every other
value leave the body without a name.
-/

namespace PhysicsScene

namespace Name

/-- The integer that a double is, if it is one. -/
def wholeValue? (number : Float) : Option Int :=
  match Double.value number with
  | .finite negative significand exponent =>
      let divisor := Nat.pow 2 (-exponent).toNat
      if significand % divisor = 0 then
        let magnitude := significand * Nat.pow 2 exponent.toNat / divisor
        some (if negative then -magnitude else magnitude)
      else none
  | _ => none

/-- Whole numbers below this magnitude are named by their integer text. -/
def wholeLimit : Nat := 1000000000000000

/-- The name that a number gives. -/
def ofNumber? (number : Number) : Option (List Char) :=
  match wholeValue? number.toDouble with
  | some value =>
      if value = 0 then none
      else if value.natAbs < wholeLimit then some (Decimal.integerChars value)
      else some (Json.numberChars number)
  | none => some (Json.numberChars number)

/-- The name that a value gives. -/
def ofJson? : Json → Option String
  | .text value => if value = "" then none else some value
  | .number value => (ofNumber? value).map String.ofList
  | .boolean true => some "true"
  | _ => none

end Name

end PhysicsScene
