import PhysicsScene.Body.Properties
import PhysicsScene.Vector2

/-!
# Shape options

The options of a body are three sizes and its properties. A size that is zero or NaN counts as not
given. In JSON a member named like a size is taken as that size if it is a number, is dropped if
it is `null`, and is an ordinary property otherwise.
-/

namespace PhysicsScene

/-- Sizes and properties from which a shape makes a body. -/
structure BodyOptions where
  radius : Option Float32
  width : Option Float32
  height : Option Float32
  properties : Properties

namespace BodyOptions

/-- Options that give nothing. -/
def none : BodyOptions := ⟨.none, .none, .none, .empty⟩

instance : Inhabited BodyOptions := ⟨none⟩

/-- Whether a size counts as given: not zero of either sign, and not NaN. -/
def isGiven (size : Float32) : Bool :=
  !(size == 0) && !size.isNaN

/-- A size if it counts as given. -/
def given (size : Option Float32) : Option Float32 :=
  size.filter isGiven

/-- The radius, if given. -/
def givenRadius (options : BodyOptions) : Option Float32 := given options.radius

/-- The width, if given. -/
def givenWidth (options : BodyOptions) : Option Float32 := given options.width

/-- The height, if given. -/
def givenHeight (options : BodyOptions) : Option Float32 := given options.height

/-- Fills what is not given from other options. -/
def overlay (own defaults : BodyOptions) : BodyOptions where
  radius := own.givenRadius <|> defaults.givenRadius
  width := own.givenWidth <|> defaults.givenWidth
  height := own.givenHeight <|> defaults.givenHeight
  properties := own.properties.overlay defaults.properties

/-- The radius of a circle without sizes. -/
def defaultRadius : Float32 := 25

/-- The side of a rectangle without sizes. -/
def defaultSide : Float32 := 100

/-- The radius of a circle: half the width, else the radius, else the default. -/
def circleRadius (options : BodyOptions) : Float32 :=
  ((options.givenWidth.map (· / 2)) <|> options.givenRadius).getD defaultRadius

/-- The size of a rectangle, each side with its own default. -/
def rectangleSize (options : BodyOptions) : Vector2 :=
  ⟨options.givenWidth.getD defaultSide, options.givenHeight.getD defaultSide⟩

/-- The size that a member gives, if it is a number. -/
def size? (members : Dictionary Json) (name : String) : Option Float32 :=
  match members.find? name with
  | some (.number value) => some value.toSingleByDouble
  | _ => .none

/-- Takes a member out if it is a number or `null`. -/
def withoutSize (members : Dictionary Json) (name : String) : Dictionary Json :=
  match members.find? name with
  | some (.number _) => members.erase name
  | some .null => members.erase name
  | _ => members

/-- The options that the members of an object give. -/
def ofDictionary (members : Dictionary Json) : BodyOptions where
  radius := size? members "radius"
  width := size? members "width"
  height := size? members "height"
  properties := ["radius", "width", "height"].foldl withoutSize members

/-- Options as an object. -/
def decoder : Decoder BodyOptions :=
  Decoder.dictionary.map ofDictionary

end BodyOptions

end PhysicsScene
