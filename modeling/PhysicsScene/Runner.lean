import PhysicsScene.World

/-!
# The runner

The runner is the gate between a clock and a world: its loop runs or not, and a running loop moves
the world only while it is enabled.
-/

namespace PhysicsScene

/-- The state of the stepping loop. -/
structure Runner where
  running : Bool
  enabled : Bool
  /-- Steps made so far. -/
  ticks : UInt64
deriving DecidableEq, Repr

namespace Runner

/-- A loop that was never started. -/
def new : Runner := ⟨false, false, 0⟩

/-- Starts the loop, enabled. -/
def run (runner : Runner) : Runner :=
  { runner with running := true, enabled := true }

/-- Stops the loop. -/
def stop (runner : Runner) : Runner :=
  { runner with running := false, enabled := false }

/-- Enables or disables stepping without starting or stopping the loop. -/
def setEnabled (runner : Runner) (enabled : Bool) : Runner :=
  { runner with enabled }

/-- Whether a tick moves the world. -/
def steps (runner : Runner) : Bool :=
  runner.running && runner.enabled

/-- One tick of the clock: moves the world if the loop runs and is enabled. -/
def tick (runner : Runner) (world : World) (duration : Float32) : Runner × World :=
  if runner.steps then ({ runner with ticks := runner.ticks + 1 }, world.step duration)
  else (runner, world)

end Runner

end PhysicsScene
