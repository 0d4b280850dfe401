import PhysicsScene.Proofs.Number.Conversion
import PhysicsScene.Proofs.World.Step

/-!
# The motion of one body

A step of a world moves all its bodies, one after the other, in the same store. `Motion.step` is
the step of one body alone: it takes the gravity of the world and the drag of the body, and knows of
no other body. The drag is read off the properties (`Properties.IsDrag`); a static body has none and
stays where it is. A world whose handles are distinct takes this step with each of its bodies.
Coordinates are rounded after every operation, so the order of the operations is part of the law.
-/

namespace PhysicsScene

namespace Properties

/-- The part of a velocity that the air takes at each step, or none for a body that never moves. -/
inductive IsDrag (properties : Properties) : Option Float32 → Prop
  | static (isStatic : properties.find? "isStatic" = some (.boolean true)) : IsDrag properties none
  /-- A number under `frictionAir` is moved into the range from zero to one. -/
  | damped (moves : properties.find? "isStatic" ≠ some (.boolean true)) {number : Number}
      {value : Float32} (given : properties.find? "frictionAir" = some (.number number))
      (rounds : number.RoundsByDouble value) :
      IsDrag properties (some (if value < 0 then 0 else if 1 < value then 1 else value))
  | undamped (moves : properties.find? "isStatic" ≠ some (.boolean true))
      (noNumber : ∀ number, properties.find? "frictionAir" ≠ some (.number number)) :
      IsDrag properties (some 0)

/-- The drag of a body with the properties. -/
def drag (properties : Properties) : Option Float32 :=
  if properties.isStatic then none else some properties.airFriction

theorem isStatic_iff (properties : Properties) :
    properties.isStatic = true ↔ properties.find? "isStatic" = some (.boolean true) := by
  rw [isStatic]
  split
  · next value found => simp [found]
  · next noBoolean =>
    refine ⟨nofun, fun found => ?_⟩
    exact absurd found (noBoolean true)

theorem isDrag_drag (properties : Properties) : properties.IsDrag properties.drag := by
  have isStatic := properties.isStatic_iff
  rw [drag]
  split
  · next static => exact .static (isStatic.1 static)
  · next moving =>
    have moves : properties.find? "isStatic" ≠ some (.boolean true) := fun found =>
      moving (isStatic.2 found)
    rw [airFriction, single?]
    split
    · next number given => exact .damped moves given ((number.roundsByDouble_iff _).2 rfl)
    · next noNumber => exact .undamped moves noNumber

/-- Properties give one drag. -/
theorem IsDrag.unique {properties : Properties} {drag other : Option Float32}
    (isDrag : properties.IsDrag drag) (isOther : properties.IsDrag other) : drag = other := by
  cases isDrag with
  | static isStatic =>
      cases isOther with
      | static => rfl
      | damped moves => exact absurd isStatic moves
      | undamped moves => exact absurd isStatic moves
  | damped moves given rounds =>
      cases isOther with
      | static isStatic => exact absurd isStatic moves
      | damped _ otherGiven otherRounds =>
          cases given.symm.trans otherGiven
          rw [(Number.roundsByDouble_iff _ _).1 rounds,
            (Number.roundsByDouble_iff _ _).1 otherRounds]
      | undamped _ noNumber => exact absurd given (noNumber _)
  | undamped moves noNumber =>
      cases isOther with
      | static isStatic => exact absurd isStatic moves
      | damped _ given => exact absurd given (noNumber _)
      | undamped => rfl

end Properties

/-- Where a body is, and where to it moves. -/
structure Motion where
  position : Vector2
  velocity : Vector2
deriving DecidableEq

namespace Motion

/-- A motion that stands still at a place. -/
def rest (position : Vector2) : Motion := ⟨position, ⟨0, 0⟩⟩

/-- One step of a body of some drag, by itself. -/
def step (gravity : Vector2) (drag : Option Float32) (motion : Motion) (duration : Float32) :
    Motion :=
  match drag with
  | none => motion
  | some drag =>
      let x := (motion.velocity.x + gravity.x * 1000 * duration) * (1 - drag)
      let y := (motion.velocity.y + gravity.y * 1000 * duration) * (1 - drag)
      ⟨⟨motion.position.x + x * duration, motion.position.y + y * duration⟩, ⟨x, y⟩⟩

end Motion

namespace Body

/-- The motion of a body. -/
def motion (body : Body) : Motion := ⟨body.position, body.velocity⟩

/-- Of a body after steps of some durations only its motion is another. -/
structure Goes (gravity : Vector2) (durations : List Float32) (before after : Body) : Prop where
  id_eq : after.id = before.id
  geometry_eq : after.geometry = before.geometry
  properties_eq : after.properties = before.properties
  motion_eq : ∃ drag, before.properties.IsDrag drag ∧
    after.motion = durations.foldl (Motion.step gravity drag) before.motion

/-- The same body in another motion. -/
def withMotion (body : Body) (motion : Motion) : Body :=
  { body with position := motion.position, velocity := motion.velocity }

/-- The same body after steps of some durations. -/
def travel (gravity : Vector2) (durations : List Float32) (body : Body) : Body :=
  body.withMotion (durations.foldl (Motion.step gravity body.properties.drag) body.motion)

@[simp]
theorem motion_withMotion (body : Body) (motion : Motion) :
    (body.withMotion motion).motion = motion :=
  rfl

theorem goes_travel (gravity : Vector2) (durations : List Float32) (body : Body) :
    Goes gravity durations body (body.travel gravity durations) where
  id_eq := rfl
  geometry_eq := rfl
  properties_eq := rfl
  motion_eq := ⟨_, body.properties.isDrag_drag, rfl⟩

theorem travel_nil (gravity : Vector2) (body : Body) : body.travel gravity [] = body :=
  rfl

theorem travel_append (gravity : Vector2) (first later : List Float32) (body : Body) :
    body.travel gravity (first ++ later) = (body.travel gravity first).travel gravity later := by
  simp only [travel, List.foldl_append]
  rfl

theorem advance_eq_travel (gravity : Vector2) (duration : Float32) (body : Body) :
    body.advance (gravity * World.gravityScale) duration = body.travel gravity [duration] := by
  simp only [advance, travel, List.foldl_cons, List.foldl_nil, Properties.drag]
  cases static : body.properties.isStatic with
  | true => rfl
  | false => rfl

end Body

namespace World

/-- A step of a world is a step of each of its bodies alone. -/
theorem memberBodies_step_eq_travel {world : World} (distinct : world.members.Nodup)
    (duration : Float32) :
    (world.step duration).memberBodies =
      world.memberBodies.map (·.travel world.gravity [duration]) := by
  rw [memberBodies_step duration distinct]
  exact List.map_congr_left fun body _ => body.advance_eq_travel world.gravity duration

end World

end PhysicsScene
