import PhysicsScene.Json.Decoder
import PhysicsScene.Json.Printer

/-!
# Plane vectors

Positions, velocities and sizes are pairs of single-precision numbers. Operations act on each
coordinate on its own and round once each. In JSON a vector is an array of two numbers.
-/

namespace PhysicsScene

/-- A pair of coordinates. -/
structure Vector2 where
  x : Float32
  y : Float32
deriving DecidableEq

namespace Vector2

/-- The origin. -/
def zero : Vector2 := ⟨0, 0⟩

instance : Inhabited Vector2 := ⟨zero⟩

/-- The sum, coordinate by coordinate. -/
def add (left right : Vector2) : Vector2 := ⟨left.x + right.x, left.y + right.y⟩

/-- The difference, coordinate by coordinate. -/
def sub (left right : Vector2) : Vector2 := ⟨left.x - right.x, left.y - right.y⟩

/-- A vector stretched by a factor. -/
def scale (vector : Vector2) (factor : Float32) : Vector2 :=
  ⟨vector.x * factor, vector.y * factor⟩

instance : Add Vector2 := ⟨add⟩

instance : Sub Vector2 := ⟨sub⟩

instance : HMul Vector2 Float32 Vector2 := ⟨scale⟩

/-- Numeric equality of both coordinates, so NaN differs from itself. -/
def sameValue (left right : Vector2) : Bool :=
  left.x == right.x && left.y == right.y

/-- The text of a vector. -/
def chars (vector : Vector2) : List Char :=
  Json.arrayChars [Json.singleChars vector.x, Json.singleChars vector.y]

/-- Reads the next coordinate of an array; a shorter array has the wrong kind. -/
def readCoordinate (depth : Nat) (isFirst : Bool) : Reader Float32 := do
  if ← Reader.nextPart ']' isFirst then Decoder.single.read depth
  else Reader.fail .mismatched

/-- An array of exactly two numbers. -/
def decoder : Decoder Vector2 where
  read depth := Decoder.readIf (· = '[') <| Reader.nested depth fun inside => do
    let x ← readCoordinate inside true
    let y ← readCoordinate inside false
    Decoder.Record.endOfArray
    pure ⟨x, y⟩
  ofJson?
    | .array [.number x, .number y] => some ⟨x.toSingle, y.toSingle⟩
    | _ => none

end Vector2

end PhysicsScene
