import PhysicsScene.Proofs.Action
import PhysicsScene.Simulation.Basic

/-!
# Transitions of a simulation

Every operation of a simulation but `dispose` has the same outer form: a disposed simulation
refuses it under a name and stays as it is, and a live one always does it. `Simulation.guarded`
is that form. Each operation is described once as a guarded answer and a plain function from the
simulation before to the simulation after; everything that is said about runs later rests on these
functions.
-/

namespace PhysicsScene

namespace Phase

/-- Whether both loops run in a phase: a frame was drawn, and nothing was released. -/
def isShown : Phase → Bool
  | .ready | .running | .paused => true
  | .constructed | .disposed => false

end Phase

namespace Simulation

/-- The outcome of an operation that a disposed simulation refuses under its name. -/
def guarded {α : Type} (simulation : Simulation) (operation : String) (answer : α)
    (after : Simulation) : Except Failure α × Simulation :=
  if simulation.isDisposed then (.error (.disposed operation), simulation) else (.ok answer, after)

@[simp]
theorem guarded_of_live {α : Type} {simulation : Simulation} (live : simulation.isDisposed = false)
    (operation : String) (answer : α) (after : Simulation) :
    simulation.guarded operation answer after = (.ok answer, after) := by
  simp [guarded, live]

@[simp]
theorem guarded_of_disposed {α : Type} {simulation : Simulation}
    (disposed : simulation.isDisposed = true) (operation : String) (answer : α)
    (after : Simulation) :
    simulation.guarded operation answer after =
      (.error (.disposed operation), simulation) := by
  simp [guarded, disposed]

/-- The simulation after `ready`. -/
def readied (simulation : Simulation) : Simulation :=
  simulation.present.inPhase .ready

/-- The simulation after `start`. -/
def started (simulation : Simulation) : Simulation :=
  match simulation.phase with
  | .constructed => (simulation.present.setEnabled true).inPhase .running
  | .ready | .paused => (simulation.setEnabled true).inPhase .running
  | .running | .disposed => simulation

/-- The simulation after `pause`. -/
def halted (simulation : Simulation) : Simulation :=
  match simulation.phase with
  | .running => (simulation.setEnabled false).inPhase .paused
  | _ => simulation

/-- The simulation after a beat of the clock. -/
def ticked (simulation : Simulation) (duration : Float32) : Simulation :=
  match simulation.phase with
  | .constructed => simulation
  | .running => (simulation.tickRunner duration).draw
  | _ => simulation.draw

theorem phase_started {simulation : Simulation} (live : simulation.phase ≠ .disposed) :
    simulation.started.phase = .running := by
  cases phase : simulation.phase with
  | disposed => exact absurd phase live
  | _ => simp [started, phase, inPhase]

theorem phase_halted (simulation : Simulation) :
    simulation.halted.phase =
      if simulation.phase = .running then .paused else simulation.phase := by
  cases phase : simulation.phase <;> simp [halted, phase, inPhase]

theorem phase_ticked (simulation : Simulation) (duration : Float32) :
    (simulation.ticked duration).phase = simulation.phase := by
  cases phase : simulation.phase <;> simp [ticked, phase, draw, tickRunner]

theorem phase_dispose (simulation : Simulation) : simulation.dispose.phase = .disposed := by
  rw [dispose]
  split
  · next already => exact of_decide_eq_true already
  · rfl

theorem outcome_requireLive (operation : String) (simulation : Simulation) :
    (requireLive operation).outcome simulation = simulation.guarded operation () simulation := by
  cases disposed : simulation.isDisposed <;> simp [requireLive, disposed]

theorem outcome_liveWorld (simulation : Simulation) :
    liveWorld.outcome simulation = simulation.guarded "engine" simulation.world simulation := by
  cases disposed : simulation.isDisposed <;> simp [liveWorld, outcome_requireLive, disposed]

theorem outcome_modifyWorld (change : World → World) (simulation : Simulation) :
    (modifyWorld change).outcome simulation =
      simulation.guarded "engine" () { simulation with world := change simulation.world } := by
  cases disposed : simulation.isDisposed <;> simp [modifyWorld, outcome_requireLive, disposed]

theorem outcome_liveSurface (simulation : Simulation) :
    liveSurface.outcome simulation =
      simulation.guarded "surface" simulation.surface simulation := by
  cases disposed : simulation.isDisposed <;> simp [liveSurface, outcome_requireLive, disposed]

theorem outcome_modifySurface (change : Surface → Surface) (simulation : Simulation) :
    (modifySurface change).outcome simulation =
      simulation.guarded "surface" ()
        { simulation with surface := change simulation.surface } := by
  cases disposed : simulation.isDisposed <;> simp [modifySurface, outcome_requireLive, disposed]

theorem outcome_ready (simulation : Simulation) :
    ready.outcome simulation = simulation.guarded "ready" () simulation.readied := by
  cases disposed : simulation.isDisposed <;> simp [ready, outcome_requireLive, disposed, readied]

theorem outcome_start (simulation : Simulation) :
    start.outcome simulation = simulation.guarded "start" () simulation.started := by
  cases disposed : simulation.isDisposed <;> simp [start, outcome_requireLive, disposed]
  rfl

theorem outcome_pause (simulation : Simulation) :
    pause.outcome simulation = simulation.guarded "pause" () simulation.halted := by
  cases disposed : simulation.isDisposed <;> simp [pause, outcome_requireLive, disposed]
  rfl

/-- A beat moves the world exactly if the phase is `running` and the runner steps. -/
theorem outcome_tick (duration : Float32) (simulation : Simulation) :
    (tick duration).outcome simulation =
      simulation.guarded "tick" (simulation.phase = .running && simulation.runner.steps)
        (simulation.ticked duration) := by
  cases disposed : simulation.isDisposed with
  | false =>
      cases phase : simulation.phase <;>
        simp [tick, outcome_requireLive, disposed, phase, ticked]
  | true => simp [tick, outcome_requireLive, disposed]

end Simulation

end PhysicsScene
