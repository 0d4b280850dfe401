import PhysicsScene.Failure
import PhysicsScene.Runner
import PhysicsScene.Simulation.Phase
import PhysicsScene.Surface

/-!
# The life of a simulation

A simulation owns a world, a runner and a surface. `ready` draws a frame and leaves the world at
rest, `start` and `pause` switch stepping on and off, `tick` is one beat of the host's clock, and
`dispose` ends it all. Once disposed, a simulation refuses everything but being disposed again;
what it owned stays as it was released, so that a host can still look at it.
-/

namespace PhysicsScene

/-- A world with its runner and its surface. -/
structure Simulation where
  phase : Phase
  world : World
  runner : Runner
  surface : Surface

namespace Simulation

/-- A simulation that did nothing yet. -/
def new (world : World) (surface : Surface) : Simulation :=
  { phase := .constructed, world, runner := .new, surface }

/-- Whether the simulation has ended. -/
def isDisposed (simulation : Simulation) : Bool :=
  simulation.phase = .disposed

/-- Refuses the named operation once the simulation is disposed. -/
def requireLive (operation : String) : Action Simulation Unit := do
  if (← get).isDisposed then throw (.disposed operation)

/-- The world, while the simulation lives. -/
def liveWorld : Action Simulation World := do
  requireLive "engine"
  pure (← get).world

/-- Changes the world, while the simulation lives. -/
def modifyWorld (change : World → World) : Action Simulation Unit := do
  requireLive "engine"
  modify fun simulation => { simulation with world := change simulation.world }

/-- The surface, while the simulation lives. -/
def liveSurface : Action Simulation Surface := do
  requireLive "surface"
  pure (← get).surface

/-- Changes the surface, while the simulation lives. -/
def modifySurface (change : Surface → Surface) : Action Simulation Unit := do
  requireLive "surface"
  modify fun simulation => { simulation with surface := change simulation.surface }

/-- The runner, while the simulation lives. -/
def liveRunner : Action Simulation Runner := do
  requireLive "runner"
  pure (← get).runner

/-- Draws the world. -/
def draw (simulation : Simulation) : Simulation :=
  { simulation with surface := simulation.surface.draw simulation.world.population }

/-- Starts both loops and draws a frame, but leaves the world at rest. -/
def present (simulation : Simulation) : Simulation :=
  { simulation with
    runner := simulation.runner.run.setEnabled false
    surface := simulation.surface.run.draw simulation.world.population }

/-- Lets ticks move the world, or not. -/
def setEnabled (simulation : Simulation) (enabled : Bool) : Simulation :=
  { simulation with runner := simulation.runner.setEnabled enabled }

/-- The simulation in another phase. -/
def inPhase (simulation : Simulation) (phase : Phase) : Simulation :=
  { simulation with phase }

/-- Draws a frame without moving the world. -/
def ready : Action Simulation Unit := do
  requireLive "ready"
  modify fun simulation => simulation.present.inPhase .ready

/-- Lets the world move from now on; at the very start a frame is drawn first. -/
def start : Action Simulation Unit := do
  requireLive "start"
  modify fun simulation =>
    match simulation.phase with
    | .constructed => (simulation.present.setEnabled true).inPhase .running
    | .ready | .paused => (simulation.setEnabled true).inPhase .running
    | .running | .disposed => simulation

/-- Lets the world stand still, if it moves. -/
def pause : Action Simulation Unit := do
  requireLive "pause"
  modify fun simulation =>
    match simulation.phase with
    | .running => (simulation.setEnabled false).inPhase .paused
    | _ => simulation

/-- One tick of the runner. -/
def tickRunner (simulation : Simulation) (duration : Float32) : Simulation :=
  let (runner, world) := simulation.runner.tick simulation.world duration
  { simulation with runner, world }

/--
One beat of the clock: moves the world if the simulation is running, then draws unless nothing was
ever drawn. The answer says whether the world moved.
-/
def tick (duration : Float32) : Action Simulation Bool := do
  requireLive "tick"
  let before ← get
  let stepped := before.phase = .running && before.runner.steps
  if before.phase = .running then modify (·.tickRunner duration)
  if before.phase ≠ .constructed then modify draw
  pure stepped

/-- Ends the simulation: stops the runner, empties the world and stops the surface. -/
def dispose (simulation : Simulation) : Simulation :=
  if simulation.isDisposed then simulation
  else
    { phase := .disposed
      world := simulation.world.clear
      runner := simulation.runner.stop
      surface := simulation.surface.stop }

end Simulation

end PhysicsScene
