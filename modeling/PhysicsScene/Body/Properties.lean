import PhysicsScene.Json.Decoder

/-!
# Properties of bodies

A body carries any number of named JSON values. A physics engine looks at two of them: whether
the body is static, and how much of its velocity the air takes away at each step. All others are
passed through unchanged.
-/

namespace PhysicsScene

/-- The free-form properties of a body. -/
abbrev Properties := Dictionary Json

namespace Properties

/-- A numeric property, by way of a double. -/
def single? (properties : Properties) (name : String) : Option Float32 :=
  match properties.find? name with
  | some (.number value) => some value.toSingleByDouble
  | _ => none

/-- Whether the body never moves: only the value `true` says so. -/
def isStatic (properties : Properties) : Bool :=
  match properties.find? "isStatic" with
  | some (.boolean value) => value
  | _ => false

/-- A number moved into the range from zero to one; NaN stays NaN. -/
def clampUnit (value : Float32) : Float32 :=
  if value < 0 then 0 else if 1 < value then 1 else value

/-- The part of the velocity that is lost at each step. -/
def airFriction (properties : Properties) : Float32 :=
  clampUnit ((properties.single? "frictionAir").getD 0)

end Properties

end PhysicsScene
