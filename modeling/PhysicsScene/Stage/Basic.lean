import PhysicsScene.Playfield
import PhysicsScene.Settings

/-!
# Stages

A stage is what a host drives: a playfield with settings. The settings give the surface its size
and the world its gravity at the start and every plain tick its duration; a new window size goes
to the settings and, while the simulation lives, to the surface.
-/

namespace PhysicsScene

/-- A playfield with settings. -/
structure Stage where
  settings : Settings
  playfield : Playfield

namespace Stage

/-- A stage with a fresh world and surface. -/
def new (settings : Settings) : Stage :=
  { settings
    playfield := .new (.new (.new settings.gravity) (.new settings.size)) }

/-- The simulation of a stage. -/
def simulation (stage : Stage) : Simulation := stage.playfield.simulation

/-- Whether the simulation has ended. -/
def isDisposed (stage : Stage) : Bool := stage.simulation.isDisposed

/-- Does an action on the playfield. -/
def onPlayfield {α : Type} (action : Action Playfield α) : Action Stage α :=
  action.onPart playfield fun stage playfield => { stage with playfield }

/-- Does an action on the simulation. -/
def onSimulation {α : Type} (action : Action Simulation α) : Action Stage α :=
  onPlayfield (Playfield.onSimulation action)

/-- Loads a scene. -/
def load (scene : Scene) : Action Stage LoadSummary :=
  onPlayfield (Playfield.load scene)

/-- Decodes and loads a scene. -/
def loadText (text : String) : Action Stage LoadSummary := do
  let scene ← (Failure.ofFault (Scene.decode text) : Except Failure Scene)
  load scene

/-- Draws a frame without moving the world. -/
def ready : Action Stage Unit := onSimulation Simulation.ready

/-- Lets the world move. -/
def start : Action Stage Unit := onSimulation Simulation.start

/-- Lets the world stand still. -/
def pause : Action Stage Unit := onSimulation Simulation.pause

/-- One beat of a given duration. -/
def tickBy (duration : Float32) : Action Stage Bool :=
  onSimulation (Simulation.tick duration)

/-- One beat of the duration that the settings give. -/
def tick : Action Stage Bool := do
  tickBy (← get).settings.timeStep

/-- Changes the simulation. -/
def mapSimulation (stage : Stage) (change : Simulation → Simulation) : Stage :=
  { stage with
    playfield := { stage.playfield with simulation := change stage.playfield.simulation } }

/-- Ends the simulation. -/
def dispose (stage : Stage) : Stage :=
  stage.mapSimulation (·.dispose)

/-- Records a new window size and passes it to the surface of a live simulation. -/
def resizeWindow (stage : Stage) (width height : Float32) : Stage :=
  let resized := { stage with settings := { stage.settings with width, height } }
  if stage.isDisposed then resized
  else
    resized.mapSimulation fun simulation =>
      { simulation with surface := simulation.surface.resize ⟨width, height⟩ }

/-- Records whether the host is debugging. -/
def noteDebug (stage : Stage) (debug : Bool) : Stage :=
  { stage with settings := { stage.settings with debug } }

/-- Adds or replaces a shape. -/
def register (stage : Stage) (name : String) (factory : Factory) : Stage :=
  { stage with playfield := stage.playfield.register name factory }

/-- What a renderer is told about all bodies in the world. -/
def snapshot : Action Stage String := do
  pure (← onSimulation Simulation.liveWorld).snapshot

/-- The bodies in the world. -/
def bodies : Action Stage (List Body) := do
  pure (← onSimulation Simulation.liveWorld).memberBodies

/-- The camera of the surface. -/
def camera : Action Stage Camera := do
  pure (← onSimulation Simulation.liveSurface).camera

end Stage

end PhysicsScene
