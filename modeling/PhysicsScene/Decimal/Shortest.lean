import PhysicsScene.Binary

/-!
# The shortest decimal that reads back

A magnitude `significand * 2 ^ exponent` of a binary format is the value of every real number in
an interval around it: half a step to the next value on either side, with the ends included iff
the significand is even. `Decimal.shortest` looks for the coarsest decimal grid that meets this
interval. If a grid meets it, one of the two grid points next to the magnitude lies inside, so
only these are tried; of two the nearer wins, and of two equally near ones the one that a `Tie`
says.
-/

namespace PhysicsScene

/-- Which of two equally near numbers is taken. -/
inductive Tie where
  | even
  | upper
deriving DecidableEq, Repr

/-- The number `digits * 10 ^ exponent`. -/
structure Decimal where
  digits : Nat
  exponent : Int
deriving DecidableEq, Repr

/--
An interval around a positive number, over a common denominator. The number is
`middle * scale / denominator`, and likewise the ends.
-/
structure RoundingInterval where
  low : Nat
  middle : Nat
  high : Nat
  denominator : Nat
  closed : Bool
deriving DecidableEq, Repr

namespace RoundingInterval

/-- The reals that round to `significand * 2 ^ exponent`, for a positive significand. -/
def around (format : BinaryFormat) (significand : Nat) (exponent : Int) : RoundingInterval :=
  let quarter := exponent - 2
  let unit := Nat.pow 2 quarter.toNat
  let narrowBelow :=
    significand = format.exponentUnit ∧ format.lowestExponent < exponent
  { low := (4 * significand - if narrowBelow then 1 else 2) * unit
    middle := 4 * significand * unit
    high := (4 * significand + 2) * unit
    denominator := Nat.pow 2 (-quarter).toNat
    closed := significand % 2 == 0 }

/-- The interval measured in steps of `10 ^ grid`. -/
def onGrid (interval : RoundingInterval) (grid : Int) : RoundingInterval :=
  let factor := Nat.pow 10 (-grid).toNat
  { interval with
    low := interval.low * factor
    middle := interval.middle * factor
    high := interval.high * factor
    denominator := interval.denominator * Nat.pow 10 grid.toNat }

/-- Whether a whole number lies in the interval. -/
def contains (interval : RoundingInterval) (point : Nat) : Bool :=
  let scaled := point * interval.denominator
  if interval.closed then interval.low ≤ scaled && scaled ≤ interval.high
  else interval.low < scaled && scaled < interval.high

/-- The whole number in the interval that is nearest to its middle, if it has one. -/
def nearestWhole (tie : Tie) (interval : RoundingInterval) : Option Nat :=
  let below := interval.middle / interval.denominator
  let above := below + 1
  match interval.contains below, interval.contains above with
  | false, false => none
  | true, false => some below
  | false, true => some above
  | true, true =>
      let fromBelow := interval.middle - below * interval.denominator
      let fromAbove := above * interval.denominator - interval.middle
      if fromBelow < fromAbove then some below
      else if fromAbove < fromBelow then some above
      else if tie = .even && below % 2 = 0 then some below
      else some above

/-- The exponent of the leading decimal digit of the middle. -/
def leadingExponent (interval : RoundingInterval) : Int :=
  if interval.denominator ≤ interval.middle then
    (Nat.toDigits 10 (interval.middle / interval.denominator)).length - 1
  else
    -((Nat.toDigits 10 ((interval.denominator - 1) / interval.middle)).length : Int)

end RoundingInterval

namespace Decimal

/-- Moves trailing zeros of the digits into the exponent, at most `limit` of them. -/
def trimmed : (limit : Nat) → Decimal → Decimal
  | 0, decimal => decimal
  | limit + 1, ⟨digits, exponent⟩ =>
      if digits % 10 = 0 then trimmed limit ⟨digits / 10, exponent + 1⟩ else ⟨digits, exponent⟩

/-- Tries `count` grids from `grid` downwards; seventeen digits always suffice. -/
def search (tie : Tie) (interval : RoundingInterval) : (count : Nat) → (grid : Int) → Decimal
  | 0, grid => ⟨(interval.onGrid grid).middle / (interval.onGrid grid).denominator, grid⟩
  | count + 1, grid =>
      match (interval.onGrid grid).nearestWhole tie with
      | some digits => trimmed 17 ⟨digits, grid⟩
      | none => search tie interval count (grid - 1)

/-- The decimal of fewest digits that rounds to a positive magnitude. -/
def shortest (tie : Tie) (format : BinaryFormat) (significand : Nat) (exponent : Int) : Decimal :=
  let interval := RoundingInterval.around format significand exponent
  search tie interval 17 interval.leadingExponent

end Decimal

end PhysicsScene
