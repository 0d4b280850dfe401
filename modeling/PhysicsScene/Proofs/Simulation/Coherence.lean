import PhysicsScene.Proofs.Simulation.Transition

/-!
# Coherence of a simulation

The phase, the runner and the surface each hold a part of what a simulation is doing, and the
operations change these parts in different orders. `Simulation.Coherent` says how they agree
between operations. The transitions keep it, and under it each of them draws and steps exactly as
its phase promises.
-/

namespace PhysicsScene

namespace World

/-- A step moves bodies but never takes one out. -/
theorem population_step (world : World) (duration : Float32) :
    (world.step duration).population = world.population :=
  rfl

end World

namespace Surface

theorem size_draw (surface : Surface) (count : Nat) : (surface.draw count).size = surface.size := by
  rw [draw]
  split <;> rfl

end Surface

namespace Simulation

/-- The phase, the runner and the surface agree. -/
structure Coherent (simulation : Simulation) : Prop where
  /-- Both loops run exactly in the phases in which something is shown. -/
  runner_running : simulation.runner.running = simulation.phase.isShown
  surface_running : simulation.surface.running = simulation.phase.isShown
  runner_enabled : simulation.runner.enabled = decide (simulation.phase = .running)
  /-- The last frame showed the bodies that are in the world now. -/
  lastCount_eq : simulation.phase ≠ .disposed →
    simulation.surface.lastCount = simulation.world.population
  /-- At the very start there is nothing to see. -/
  untouched : simulation.phase = .constructed →
    simulation.world.members = [] ∧ simulation.surface.frames = 0 ∧ simulation.runner.ticks = 0
  /-- In the end the world is empty. -/
  released : simulation.phase = .disposed → simulation.world.members = []

theorem coherent_new (gravity size : Vector2) : (new (.new gravity) (.new size)).Coherent := by
  refine ⟨rfl, rfl, rfl, fun _ => rfl, fun _ => ⟨rfl, rfl, rfl⟩, ?_⟩
  intro disposed
  cases disposed

variable {simulation : Simulation}

/-- Between its first and its last phase a simulation runs both loops and shows its bodies. -/
theorem coherent_of_shown (shown : simulation.phase.isShown = true)
    (runner : simulation.runner.running = true) (surface : simulation.surface.running = true)
    (enabled : simulation.runner.enabled = decide (simulation.phase = .running))
    (lastCount : simulation.surface.lastCount = simulation.world.population) :
    simulation.Coherent := by
  refine ⟨runner.trans shown.symm, surface.trans shown.symm, enabled, fun _ => lastCount, ?_, ?_⟩
  · intro constructed
    rw [constructed] at shown
    cases shown
  · intro disposed
    rw [disposed] at shown
    cases shown

/-- A frame sets everything right, whatever came before it. -/
theorem coherent_readied (simulation : Simulation) : simulation.readied.Coherent :=
  coherent_of_shown rfl rfl rfl rfl rfl

theorem Coherent.started (coherent : simulation.Coherent) : simulation.started.Coherent := by
  cases phase : simulation.phase with
  | constructed =>
      simp only [Simulation.started, phase]
      exact coherent_of_shown rfl rfl rfl rfl rfl
  | ready | paused =>
      have running := coherent.runner_running
      have shown := coherent.surface_running
      have lastCount := coherent.lastCount_eq (by simp [phase])
      simp only [phase] at running shown
      simp only [Simulation.started, phase]
      exact coherent_of_shown rfl running shown rfl lastCount
  | running | disposed =>
      simp only [Simulation.started, phase]
      exact coherent

theorem Coherent.halted (coherent : simulation.Coherent) : simulation.halted.Coherent := by
  cases phase : simulation.phase with
  | running =>
      have running := coherent.runner_running
      have shown := coherent.surface_running
      have lastCount := coherent.lastCount_eq (by simp [phase])
      simp only [phase] at running shown
      simp only [Simulation.halted, phase]
      exact coherent_of_shown rfl running shown rfl lastCount
  | _ =>
      simp only [Simulation.halted, phase]
      exact coherent

/-- The runner steps exactly while the simulation is running. -/
theorem Coherent.runner_steps (coherent : simulation.Coherent) :
    simulation.runner.steps = decide (simulation.phase = .running) := by
  rw [Runner.steps, coherent.runner_running, coherent.runner_enabled]
  cases simulation.phase <;> rfl

theorem Coherent.tickRunner (coherent : simulation.Coherent) (running : simulation.phase = .running)
    (duration : Float32) :
    simulation.tickRunner duration =
      { simulation with
        runner := { simulation.runner with ticks := simulation.runner.ticks + 1 }
        world := simulation.world.step duration } := by
  have steps := coherent.runner_steps
  simp only [running, decide_true] at steps
  simp only [Simulation.tickRunner, Runner.tick, steps, if_true]

/-- A beat draws the bodies once in every phase that shows them. -/
theorem Coherent.ticked_surface (coherent : simulation.Coherent) (duration : Float32) :
    (simulation.ticked duration).surface =
      if simulation.phase.isShown then
        { simulation.surface with
          frames := simulation.surface.frames + 1
          lastCount := simulation.world.population }
      else simulation.surface := by
  have shown := coherent.surface_running
  cases phase : simulation.phase with
  | constructed => simp [Simulation.ticked, phase, Phase.isShown]
  | running =>
      simp only [phase, Phase.isShown] at shown
      simp [Simulation.ticked, phase, coherent.tickRunner phase, draw, Surface.draw, shown,
        Phase.isShown, World.population_step]
  | _ =>
      simp only [phase, Phase.isShown] at shown
      simp [Simulation.ticked, phase, draw, Surface.draw, shown, Phase.isShown]

/-- A beat steps the runner once while the simulation is running. -/
theorem Coherent.ticked_runner (coherent : simulation.Coherent) (duration : Float32) :
    (simulation.ticked duration).runner =
      if simulation.phase = .running then
        { simulation.runner with ticks := simulation.runner.ticks + 1 }
      else simulation.runner := by
  cases phase : simulation.phase with
  | running => simp [Simulation.ticked, phase, coherent.tickRunner phase, draw]
  | _ => simp [Simulation.ticked, phase, draw]

theorem Coherent.ticked_population (coherent : simulation.Coherent) (duration : Float32) :
    (simulation.ticked duration).world.population = simulation.world.population := by
  cases phase : simulation.phase with
  | running =>
      simp [Simulation.ticked, phase, coherent.tickRunner phase, draw, World.population_step]
  | _ => simp [Simulation.ticked, phase, draw]

theorem Coherent.ticked (coherent : simulation.Coherent) (duration : Float32) :
    (simulation.ticked duration).Coherent := by
  have running := coherent.runner_running
  have shown := coherent.surface_running
  have enabled := coherent.runner_enabled
  refine ⟨?_, ?_, ?_, ?_, ?_, ?_⟩
  · rw [coherent.ticked_runner, phase_ticked]
    split <;> exact running
  · rw [coherent.ticked_surface, phase_ticked]
    split <;> exact shown
  · rw [coherent.ticked_runner, phase_ticked]
    split <;> exact enabled
  · intro notDisposed
    rw [phase_ticked] at notDisposed
    rw [coherent.ticked_surface, coherent.ticked_population]
    split
    · rfl
    · exact coherent.lastCount_eq notDisposed
  · intro constructed
    rw [phase_ticked] at constructed
    simp only [Simulation.ticked, constructed]
    exact coherent.untouched constructed
  · intro disposed
    rw [phase_ticked] at disposed
    simp only [Simulation.ticked, disposed, draw]
    exact coherent.released disposed

theorem size_readied (simulation : Simulation) :
    simulation.readied.surface.size = simulation.surface.size :=
  Surface.size_draw _ _

theorem size_started (simulation : Simulation) :
    simulation.started.surface.size = simulation.surface.size := by
  cases phase : simulation.phase with
  | constructed =>
      simp only [started, phase]
      exact Surface.size_draw _ _
  | _ => simp [started, phase, setEnabled, inPhase]

theorem size_halted (simulation : Simulation) :
    simulation.halted.surface.size = simulation.surface.size := by
  cases phase : simulation.phase <;> simp [halted, phase, setEnabled, inPhase]

theorem size_ticked (simulation : Simulation) (duration : Float32) :
    (simulation.ticked duration).surface.size = simulation.surface.size := by
  cases phase : simulation.phase <;> simp [ticked, phase, draw, tickRunner, Surface.size_draw]

theorem frames_started (simulation : Simulation) :
    simulation.started.surface.frames =
      simulation.surface.frames +
        UInt64.ofNat (decide (simulation.phase = .constructed)).toNat := by
  cases phase : simulation.phase with
  | constructed =>
      simp only [started, phase]
      rfl
  | _ => simp [started, phase, setEnabled, inPhase]

theorem ticks_started (simulation : Simulation) :
    simulation.started.runner.ticks = simulation.runner.ticks := by
  cases phase : simulation.phase with
  | constructed =>
      simp only [started, phase]
      rfl
  | _ => simp [started, phase, setEnabled, inPhase, Runner.setEnabled]

theorem frames_halted (simulation : Simulation) :
    simulation.halted.surface.frames = simulation.surface.frames := by
  cases phase : simulation.phase <;> simp [halted, phase, setEnabled, inPhase]

theorem ticks_halted (simulation : Simulation) :
    simulation.halted.runner.ticks = simulation.runner.ticks := by
  cases phase : simulation.phase <;>
    simp [halted, phase, setEnabled, inPhase, Runner.setEnabled]

/-- A beat draws a frame exactly in the phases that show the bodies. -/
theorem Coherent.frames_ticked (coherent : simulation.Coherent) (duration : Float32) :
    (simulation.ticked duration).surface.frames =
      simulation.surface.frames + UInt64.ofNat simulation.phase.isShown.toNat := by
  rw [coherent.ticked_surface]
  cases simulation.phase.isShown <;> simp

/-- A beat steps the world exactly while the simulation is running. -/
theorem Coherent.ticks_ticked (coherent : simulation.Coherent) (duration : Float32) :
    (simulation.ticked duration).runner.ticks =
      simulation.runner.ticks + UInt64.ofNat (decide (simulation.phase = .running)).toNat := by
  rw [coherent.ticked_runner]
  by_cases running : simulation.phase = .running <;> simp [running]

theorem frames_dispose (simulation : Simulation) :
    simulation.dispose.surface.frames = simulation.surface.frames := by
  rw [dispose]
  split <;> rfl

theorem ticks_dispose (simulation : Simulation) :
    simulation.dispose.runner.ticks = simulation.runner.ticks := by
  rw [dispose]
  split <;> rfl

/-- Another size or camera of the surface changes nothing that counts. -/
theorem Coherent.withSurface (coherent : simulation.Coherent) (size : Vector2) (camera : Camera) :
    { simulation with surface := { simulation.surface with size, camera } }.Coherent :=
  ⟨coherent.runner_running, coherent.surface_running, coherent.runner_enabled,
    coherent.lastCount_eq, coherent.untouched, coherent.released⟩

theorem Coherent.dispose (coherent : simulation.Coherent) : simulation.dispose.Coherent := by
  rw [Simulation.dispose]
  split
  · exact coherent
  · refine ⟨rfl, rfl, rfl, fun live => absurd rfl live, ?_, fun _ => rfl⟩
    intro constructed
    cases constructed

end Simulation

end PhysicsScene
