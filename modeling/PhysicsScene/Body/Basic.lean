import PhysicsScene.Body.Geometry
import PhysicsScene.Body.Properties
import PhysicsScene.Vector2

/-!
# Bodies

A body has a shape, a place, a velocity and properties, and an identity if an engine gave it one.
`Body.advance` is the whole physics of one body for one step: acceleration changes the velocity,
the air takes its part, and the new velocity moves the body. A static body stays as it is.
-/

namespace PhysicsScene

/-- The identity that an engine gives to a body. -/
structure Identity where
  number : UInt64
deriving DecidableEq

namespace Identity

/-- The identity as shown in messages. -/
def display (id : Identity) : String :=
  String.ofList ('#' :: Decimal.digitChars id.number.toNat)

/-- An unsigned 64-bit integer. -/
def decoder : Decoder Identity :=
  Decoder.unsigned.map Identity.mk

/-- The text of an identity. -/
def chars (id : Identity) : List Char :=
  Decimal.digitChars id.number.toNat

end Identity

/-- A physical object. -/
structure Body where
  /-- The identity, or none if no engine accepted the body. -/
  id : Option Identity
  geometry : Geometry
  position : Vector2
  velocity : Vector2
  properties : Properties

namespace Body

/-- A body at rest. -/
def atRest (id : Option Identity) (geometry : Geometry) (position : Vector2)
    (properties : Properties) : Body :=
  { id, geometry, position, velocity := .zero, properties }

/-- The velocity after a step under an acceleration. -/
def nextVelocity (body : Body) (acceleration : Vector2) (duration : Float32) : Vector2 :=
  (body.velocity + acceleration * duration) * (1 - body.properties.airFriction)

/-- The body after a step under an acceleration. -/
def advance (body : Body) (acceleration : Vector2) (duration : Float32) : Body :=
  if body.properties.isStatic then body
  else
    let velocity := body.nextVelocity acceleration duration
    { body with velocity, position := body.position + velocity * duration }

/-- What a renderer is told about a body. -/
def snapshotChars (body : Body) : List Char :=
  Json.objectChars
    [("id", (body.id.map Identity.chars).getD (Json.chars .null)),
      ("shape", body.geometry.chars),
      ("position", body.position.chars),
      ("properties", Json.dictionaryChars body.properties)]

end Body

end PhysicsScene
