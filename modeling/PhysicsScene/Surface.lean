import PhysicsScene.Vector2

/-!
# Camera and surface

The camera is the region of the world that is shown. A surface has a size, a camera and a render
loop; it draws a frame only while the loop runs, and remembers how many frames it drew and how
many bodies were in the last one.
-/

namespace PhysicsScene

/-- A region of the world between two corners. -/
structure Camera where
  min : Vector2
  max : Vector2
deriving DecidableEq

namespace Camera

/-- The extent of a world that does not give its own. -/
def defaultExtent : Float32 := 1000

/-- The region from the origin to a size. -/
def ofSize (width height : Float32) : Camera :=
  ⟨.zero, ⟨width, height⟩⟩

/-- The region that a surface shows at first. -/
def initial : Camera := ofSize defaultExtent defaultExtent

/-- The extent of a region. -/
def size (camera : Camera) : Vector2 :=
  camera.max - camera.min

/-- Numeric equality of all coordinates. -/
def sameValue (left right : Camera) : Bool :=
  left.min.sameValue right.min && left.max.sameValue right.max

/-- The text of a region. -/
def chars (camera : Camera) : List Char :=
  Json.objectChars [("min", camera.min.chars), ("max", camera.max.chars)]

/-- A record of two corners, both required. -/
def decoder : Decoder Camera :=
  Decoder.Record.decoder
    { fields :=
        [Decoder.field "min" Vector2.decoder (fun corner draft => (some corner, draft.2)),
          Decoder.field "max" Vector2.decoder (fun corner draft => (draft.1, some corner))]
      draft := (none, none)
      finish := fun
        | (some min, some max) => some ⟨min, max⟩
        | _ => none }

end Camera

/-- A drawable target. -/
structure Surface where
  size : Vector2
  camera : Camera
  running : Bool
  /-- Frames drawn so far. -/
  frames : UInt64
  /-- The number of bodies in the last frame. -/
  lastCount : Nat
deriving DecidableEq

namespace Surface

/-- A surface of a size that has drawn nothing. -/
def new (size : Vector2) : Surface :=
  { size, camera := .initial, running := false, frames := 0, lastCount := 0 }

/-- Points the camera. -/
def lookAt (surface : Surface) (camera : Camera) : Surface :=
  { surface with camera }

/-- Changes the size. -/
def resize (surface : Surface) (size : Vector2) : Surface :=
  { surface with size }

/-- Starts the render loop. -/
def run (surface : Surface) : Surface :=
  { surface with running := true }

/-- Stops the render loop. -/
def stop (surface : Surface) : Surface :=
  { surface with running := false }

/-- Draws a frame of a number of bodies, if the loop runs. -/
def draw (surface : Surface) (count : Nat) : Surface :=
  if surface.running then { surface with frames := surface.frames + 1, lastCount := count }
  else surface

end Surface

end PhysicsScene
