import PhysicsScene.Scene.Entry
import PhysicsScene.Shape.Registry

/-!
# Scenes

A scene has the extent of its world, a list of bodies, the diagnostics of the compiler that made it
and shapes of its own, each of which may be missing. Decoding is lenient about the contents of
these parts: whatever stands in the list of bodies is an entry, and whatever stands in the list of
diagnostics is a diagnostic.
-/

namespace PhysicsScene

/-- The extent of the world of a scene. -/
structure WorldExtent where
  width : Option Float32
  height : Option Float32
deriving DecidableEq

namespace WorldExtent

/-- The two numbers of an extent, in the order of the array form. -/
def record : Decoder.Record WorldExtent WorldExtent :=
  .ofDraft ⟨none, none⟩
    [Decoder.field "width" (Decoder.nullable Decoder.single)
        (fun width extent => { extent with width }),
      Decoder.field "height" (Decoder.nullable Decoder.single)
        (fun height extent => { extent with height })]

/-- A record of two optional numbers. -/
def decoder : Decoder WorldExtent := record.decoder

end WorldExtent

/-- A message of the scene compiler, which may have any form. -/
structure Diagnostic where
  value : Json

namespace Diagnostic

/-- The text of a diagnostic: it is a string, or an object with a string under `message`. -/
def message? (diagnostic : Diagnostic) : Option String :=
  match diagnostic.value with
  | .text value => some value
  | .object members =>
      match members.lookup "message" with
      | some (.text value) => some value
      | _ => none
  | _ => none

end Diagnostic

/-- A complete scene. -/
structure Scene where
  world : Option WorldExtent
  bodies : Option (List SceneEntry)
  diagnostics : Option (List Diagnostic)
  overrides : Option Overrides

namespace Scene

/-- The scene without any part. -/
def empty : Scene := ⟨none, none, none, none⟩

/-- The scene with a world of a size. -/
def setExtent (scene : Scene) (width height : Float32) : Scene :=
  { scene with world := some ⟨some width, some height⟩ }

/-- The scene with one more body. -/
def addBody (scene : Scene) (plan : BodyPlan) : Scene :=
  { scene with bodies := some (scene.bodies.getD [] ++ [.plan plan]) }

/-- The scene with other overrides. -/
def setOverrides (scene : Scene) (overrides : Overrides) : Scene :=
  { scene with overrides := some overrides }

/-- The number of diagnostics. -/
def diagnosticCount (scene : Scene) : Nat :=
  (scene.diagnostics.getD []).length

/-- Any element of a body list. -/
def entryDecoder : Decoder SceneEntry where
  read depth := SceneEntry.ofJson <$> Json.read depth
  ofJson? json := some (SceneEntry.ofJson json)

/-- Any diagnostic. -/
def diagnosticDecoder : Decoder Diagnostic :=
  Decoder.anything.map Diagnostic.mk

/-- The four parts of a scene, in the order of the array form. -/
def record : Decoder.Record Scene Scene :=
  .ofDraft empty
    [Decoder.field "world" (Decoder.nullable WorldExtent.decoder)
        (fun world scene => { scene with world }),
      Decoder.field "bodies" (Decoder.nullable (Decoder.list entryDecoder))
        (fun bodies scene => { scene with bodies }),
      Decoder.field "errors" (Decoder.nullable (Decoder.list diagnosticDecoder))
        (fun diagnostics scene => { scene with diagnostics }),
      Decoder.field "shapeOverrides" (Decoder.nullable Overrides.decoder)
        (fun overrides scene => { scene with overrides })]

/-- A record of four parts, each of which may be missing or `null`. -/
def decoder : Decoder Scene := record.decoder

/-- Decodes a scene while reading its text. -/
def decode (text : String) : Except Fault Scene :=
  decoder.decode text

/-- Decodes a scene by way of its document tree. -/
def decodeTree (text : String) : Except Fault Scene :=
  decoder.decodeTree text

end Scene

end PhysicsScene
