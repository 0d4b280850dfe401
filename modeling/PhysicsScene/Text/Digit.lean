/-!
# Digits

The value of a digit and of a sequence of digits, in a base up to sixteen.
-/

namespace PhysicsScene

namespace Digit

/-- The value of a digit in a base up to sixteen. -/
def value? (base : Nat) (char : Char) : Option Nat :=
  let value :=
    if '0' ≤ char ∧ char ≤ '9' then some (char.toNat - '0'.toNat)
    else if 'a' ≤ char ∧ char ≤ 'f' then some (char.toNat - 'a'.toNat + 10)
    else if 'A' ≤ char ∧ char ≤ 'F' then some (char.toNat - 'A'.toNat + 10)
    else none
  value.filter (· < base)

/-- The number that digits spell in a base. -/
def number? (base : Nat) (digits : List Char) : Option Nat := do
  pure ((← digits.mapM (value? base)).foldl (fun value digit => base * value + digit) 0)

end Digit

end PhysicsScene
