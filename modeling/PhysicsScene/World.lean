import PhysicsScene.Body.Basic

/-!
# The world

A world keeps every body that was ever made with it and says which of them it moves. Bodies are
referred to by `Handle`s, so whoever holds a handle sees the body as it is now, also after it was
taken out of the world. Building a body gives it the next identity but does not put it in.
-/

namespace PhysicsScene

/-- A reference to a body that was made with a world. -/
structure Handle where
  index : Nat
deriving DecidableEq, Repr

/-- How often a world was used. -/
structure Activity where
  batches : Nat
  steps : Nat
  clearings : Nat
deriving DecidableEq, Repr

/--
An action of a body builder, which hands out identities: given the next identity, a result and
the identity that is next then.
-/
abbrev Builder (α : Type) : Type := StateM UInt64 α

namespace Builder

/-- Takes the next identity. -/
def allocate : Builder Identity :=
  fun next => (⟨next⟩, next + 1)

/-- Builds a body of a shape, at rest. -/
def body (geometry : Geometry) (position : Vector2) (properties : Properties) : Builder Body := do
  let id ← allocate
  pure (.atRest (some id) geometry position properties)

/-- Builds a circle. -/
def circle (position : Vector2) (radius : Float32) (properties : Properties) : Builder Body :=
  body (.circle radius) position properties

/-- Builds a rectangle. -/
def rectangle (position : Vector2) (width height : Float32) (properties : Properties) :
    Builder Body :=
  body (.rectangle width height) position properties

end Builder

/-- Bodies, and which of them move. -/
structure World where
  /-- Gravity in multiples of `World.gravityScale`. -/
  gravity : Vector2
  /-- All bodies made so far; a handle is a place in this array. -/
  bodies : Array Body
  /-- The bodies that a step moves, in the order in which they were put in. -/
  members : List Handle
  /-- The identity that the next body gets. -/
  nextId : UInt64
  activity : Activity

namespace World

/-- Pixels per square second in one unit of gravity. -/
def gravityScale : Float32 := 1000

/-- The world without bodies. -/
def new (gravity : Vector2) : World :=
  { gravity, bodies := #[], members := [], nextId := 1, activity := ⟨0, 0, 0⟩ }

/-- Gravity downwards, of one unit. -/
def defaultGravity : Vector2 := ⟨0, 1⟩

/-- The body behind a handle. -/
def body? (world : World) (handle : Handle) : Option Body :=
  world.bodies[handle.index]?

/-- Keeps a body and gives its handle. -/
def keep (world : World) (body : Body) : Handle × World :=
  (⟨world.bodies.size⟩, { world with bodies := world.bodies.push body })

/-- Builds a body and keeps it, without putting it in. -/
def build (world : World) (builder : Builder Body) : Handle × World :=
  let (body, nextId) := builder world.nextId
  { world with nextId }.keep body

/-- Changes the body behind a handle. -/
def modify (world : World) (handle : Handle) (change : Body → Body) : World :=
  { world with bodies := world.bodies.modify handle.index change }

/-- Puts bodies in, after those that are in already. -/
def add (world : World) (batch : List Handle) : World :=
  { world with
    members := world.members ++ batch
    activity := { world.activity with batches := world.activity.batches + 1 } }

/-- Takes all bodies out; identities go on. -/
def clear (world : World) : World :=
  { world with
    members := []
    activity := { world.activity with clearings := world.activity.clearings + 1 } }

/-- The acceleration of every body that is not static. -/
def acceleration (world : World) : Vector2 :=
  world.gravity * gravityScale

/-- Moves the bodies for a duration, one after the other in their order. -/
def step (world : World) (duration : Float32) : World :=
  let acceleration := world.acceleration
  { world with
    bodies := world.members.foldl
      (fun bodies handle => bodies.modify handle.index (·.advance acceleration duration))
      world.bodies
    activity := { world.activity with steps := world.activity.steps + 1 } }

/-- The number of bodies in the world. -/
def population (world : World) : Nat :=
  world.members.length

/-- The bodies in the world as they are now. -/
def memberBodies (world : World) : List Body :=
  world.members.filterMap world.body?

/-- What a renderer is told about all bodies in the world. -/
def snapshot (world : World) : String :=
  String.ofList (Json.arrayChars (world.memberBodies.map Body.snapshotChars))

end World

end PhysicsScene
