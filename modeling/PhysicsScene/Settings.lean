import PhysicsScene.Failure
import PhysicsScene.Vector2

/-!
# Settings

The settings of a stage: the size of its surface, the address and patience of its compile client,
and the gravity and time step of its world. They are kept as a JSON text, in which every field may
be missing; settings that a stage cannot run with are refused when they are read.
-/

namespace PhysicsScene

/-- The settings of a stage. -/
structure Settings where
  width : Float32
  height : Float32
  /-- Kept for the host; a stage does not look at it. -/
  debug : Bool
  compileUrl : String
  compileTimeout : UInt64
  gravity : Vector2
  /-- The duration of one tick in seconds. -/
  timeStep : Float32
deriving DecidableEq

namespace Settings

/-- The settings of a host that gives none: an 800 by 600 surface and 60 ticks a second. -/
def default : Settings where
  width := 800
  height := 600
  debug := false
  compileUrl := "/compile"
  compileTimeout := 5000
  gravity := ⟨0, 1⟩
  timeStep := 1 / 60

instance : Inhabited Settings := ⟨default⟩

/-- The size of the surface. -/
def size (settings : Settings) : Vector2 := ⟨settings.width, settings.height⟩

/-- A record of seven fields, each of which may be missing but not `null`. -/
def decoder : Decoder Settings :=
  (Decoder.Record.ofDraft default
    [Decoder.field "width" Decoder.single (fun width settings => { settings with width }),
      Decoder.field "height" Decoder.single (fun height settings => { settings with height }),
      Decoder.field "debug" Decoder.boolean (fun debug settings => { settings with debug }),
      Decoder.field "compile_url" Decoder.text
        (fun compileUrl settings => { settings with compileUrl }),
      Decoder.field "compile_timeout_ms" Decoder.unsigned
        (fun compileTimeout settings => { settings with compileTimeout }),
      Decoder.field "gravity" Vector2.decoder (fun gravity settings => { settings with gravity }),
      Decoder.field "time_step" Decoder.single
        (fun timeStep settings => { settings with timeStep })]).decoder

/-- The first reason why a stage cannot run with the settings. -/
def problem? (settings : Settings) : Option SettingsProblem :=
  if !(0 < settings.width && 0 < settings.height) then
    some (.surfaceSize settings.width settings.height)
  else if !(0 < settings.timeStep) then some (.timeStep settings.timeStep)
  else if settings.compileTimeout = 0 then some .zeroTimeout
  else none

/-- Refuses settings that a stage cannot run with. -/
def validate (settings : Settings) : Except Failure Unit :=
  match settings.problem? with
  | none => .ok ()
  | some problem => .error (.settings problem)

/-- Decodes and validates settings. -/
def ofText (text : String) : Except Failure Settings := do
  let settings ← Failure.ofFault (decoder.decode text)
  settings.validate
  pure settings

/-- The text of settings, with all fields in order. -/
def chars (settings : Settings) : List Char :=
  Json.objectChars
    [("width", Json.singleChars settings.width),
      ("height", Json.singleChars settings.height),
      ("debug", Json.booleanChars settings.debug),
      ("compile_url", Json.textChars settings.compileUrl),
      ("compile_timeout_ms", Decimal.digitChars settings.compileTimeout.toNat),
      ("gravity", settings.gravity.chars),
      ("time_step", Json.singleChars settings.timeStep)]

/-- The text of settings as a string. -/
def toText (settings : Settings) : String :=
  String.ofList settings.chars

/-- Equality of all fields, where numbers compare by value, so NaN differs from itself. -/
def sameValue (left right : Settings) : Bool :=
  left.width == right.width && left.height == right.height && left.debug == right.debug &&
    left.compileUrl == right.compileUrl && left.compileTimeout == right.compileTimeout &&
    left.gravity.sameValue right.gravity && left.timeStep == right.timeStep

/-- The compile timeout in whole seconds and remaining milliseconds. -/
def timeoutParts (settings : Settings) : Nat × Nat :=
  (settings.compileTimeout.toNat / 1000, settings.compileTimeout.toNat % 1000)

end Settings

end PhysicsScene
