import PhysicsScene.Shape.Options
import PhysicsScene.World

/-!
# Built-in shapes

Three shapes are always there: `circle`, `rectangle` and `unknown`. The last is sized like a circle
and stands in for names that nothing else explains.
-/

namespace PhysicsScene

/-- The shapes that need no definition. -/
inductive StandardShape where
  | circle
  | rectangle
  | unknown
deriving DecidableEq, Repr

namespace StandardShape

/-- All built-in shapes. -/
def all : List StandardShape := [.circle, .rectangle, .unknown]

/-- The name of a built-in shape. -/
def name : StandardShape → String
  | .circle => "circle"
  | .rectangle => "rectangle"
  | .unknown => "unknown"

/-- The built-in shape of a name. -/
def ofName? (name : String) : Option StandardShape :=
  all.find? fun shape => shape.name = name

/-- The geometry that options give a built-in shape. -/
def geometry (shape : StandardShape) (options : BodyOptions) : Geometry :=
  match shape with
  | .circle | .unknown => .circle options.circleRadius
  | .rectangle => .rectangle options.rectangleSize.x options.rectangleSize.y

/-- Builds a body of a built-in shape. -/
def place (shape : StandardShape) (options : BodyOptions) (position : Vector2) : Builder Body :=
  Builder.body (shape.geometry options) position options.properties

end StandardShape

end PhysicsScene
