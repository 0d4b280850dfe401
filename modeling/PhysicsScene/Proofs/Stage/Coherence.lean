import PhysicsScene.Proofs.Simulation.Coherence
import PhysicsScene.Proofs.Stage.Phases

/-!
# Coherence along the runs of a stage

A stage is coherent if its simulation is, if nothing has a name before the first frame, and if the
surface of a live stage has the size that the settings give. Every operation keeps a stage
coherent, so every run of a fresh stage does. Two counters are followed along a run as well: the
frames that were drawn and the steps that were made are exactly those that the phase at each
operation promised.
-/

namespace PhysicsScene

namespace Stage

/-- What agrees in a stage between operations. -/
structure Coherent (stage : Stage) : Prop where
  simulation : stage.simulation.Coherent
  unnamed : stage.simulation.phase = .constructed → stage.playfield.bindings = .empty
  size_eq : stage.isDisposed = false → stage.simulation.surface.size = stage.settings.size

theorem coherent_new (settings : Settings) : (new settings).Coherent :=
  ⟨Simulation.coherent_new _ _, fun _ => rfl, fun _ => rfl⟩

variable {stage : Stage}

/-- A live stage stays coherent if its simulation does and neither starts anew nor is resized. -/
theorem Coherent.mapSimulation (coherent : stage.Coherent) (live : stage.isDisposed = false)
    (change : Simulation → Simulation) (kept : (change stage.simulation).Coherent)
    (constructed : (change stage.simulation).phase = .constructed →
      stage.simulation.phase = .constructed)
    (size : (change stage.simulation).surface.size = stage.simulation.surface.size) :
    (stage.mapSimulation change).Coherent where
  simulation := kept
  unnamed := fun atStart => coherent.unnamed (constructed atStart)
  size_eq := fun _ => size.trans (coherent.size_eq live)

theorem coherent_framed {simulation : Simulation} (coherent : simulation.Coherent)
    (extent : Option WorldExtent) : (Playfield.framed simulation extent).Coherent := by
  cases extent with
  | none => exact coherent
  | some extent => exact coherent.withSurface simulation.surface.size (Playfield.cameraOf extent)

theorem Coherent.loaded (coherent : stage.Coherent) (live : stage.isDisposed = false)
    (scene : Scene) : (stage.loaded scene).Coherent := by
  have size := Playfield.framed_size stage.simulation scene.world
  cases bodies : scene.bodies with
  | none =>
      have same := stage.simulation_loaded_of_none bodies
      refine ⟨?_, ?_, ?_⟩
      · rw [same]
        exact coherent_framed coherent.simulation scene.world
      · intro atStart
        rw [same, Playfield.framed_phase] at atStart
        rw [stage.bindings_loaded_of_none bodies]
        exact coherent.unnamed atStart
      · intro _
        rw [same]
        exact size.trans (coherent.size_eq live)
  | some entries =>
      rcases stage.simulation_loaded_of_some bodies with ⟨world, same⟩
      refine ⟨?_, ?_, ?_⟩
      · rw [same]
        exact Simulation.coherent_readied _
      · intro atStart
        rw [same] at atStart
        cases atStart
      · intro _
        rw [same, Simulation.size_readied]
        exact size.trans (coherent.size_eq live)

theorem Coherent.ticked (coherent : stage.Coherent) (live : stage.isDisposed = false)
    (duration : Float32) : (stage.mapSimulation (·.ticked duration)).Coherent := by
  apply coherent.mapSimulation live (·.ticked duration)
  · exact coherent.simulation.ticked duration
  · intro atStart
    rwa [Simulation.phase_ticked] at atStart
  · exact Simulation.size_ticked _ _

theorem Coherent.dispose (coherent : stage.Coherent) : stage.dispose.Coherent := by
  have phase : stage.dispose.simulation.phase = .disposed := Simulation.phase_dispose _
  refine ⟨coherent.simulation.dispose, ?_, ?_⟩
  · intro atStart
    rw [phase] at atStart
    cases atStart
  · intro live
    exact absurd phase (of_decide_eq_false live)

theorem Coherent.liveAfter (coherent : stage.Coherent) (live : stage.isDisposed = false)
    (operation : Operation) : (stage.liveAfter operation).Coherent := by
  have inside := coherent.simulation
  cases operation with
  | ready =>
      apply coherent.mapSimulation live (·.readied)
      · exact Simulation.coherent_readied _
      · intro atStart
        cases atStart
      · exact Simulation.size_readied _
  | start =>
      apply coherent.mapSimulation live (·.started)
      · exact inside.started
      · intro atStart
        rw [Simulation.phase_started (of_decide_eq_false live)] at atStart
        cases atStart
      · exact Simulation.size_started _
  | pause =>
      apply coherent.mapSimulation live (·.halted)
      · exact inside.halted
      · intro atStart
        rw [Simulation.phase_halted] at atStart
        split at atStart
        · cases atStart
        · exact atStart
      · exact Simulation.size_halted _
  | tick => exact coherent.ticked live _
  | tickBy duration => exact coherent.ticked live duration
  | load scene => exact coherent.loaded live scene
  | loadText text =>
      simp only [Stage.liveAfter]
      cases Scene.decode text with
      | ok scene => exact coherent.loaded live scene
      | error fault => exact coherent
  | resizeWindow width height =>
      simp only [Stage.liveAfter, Stage.resizeWindow, live, Bool.false_eq_true, if_false]
      exact ⟨inside.withSurface ⟨width, height⟩ _, coherent.unnamed, fun _ => rfl⟩
  | noteDebug debug => exact ⟨inside, coherent.unnamed, coherent.size_eq⟩
  | register name factory => exact ⟨inside, coherent.unnamed, coherent.size_eq⟩
  | dispose => exact coherent.dispose
  | bodies | snapshot | camera => exact coherent
  | arrive result =>
      cases result with
      | ok scene => exact coherent.loaded live scene
      | error failure => exact coherent

theorem Coherent.disposedAfter (coherent : stage.Coherent) (disposed : stage.isDisposed = true)
    (operation : Operation) : (stage.disposedAfter operation).Coherent := by
  have same := simulation_disposedAfter stage operation
  refine ⟨?_, ?_, ?_⟩
  · rw [same]
    exact coherent.simulation
  · intro atStart
    rw [same] at atStart
    rw [bindings_disposedAfter]
    exact coherent.unnamed atStart
  · intro live
    rw [Stage.isDisposed, same, ← Stage.isDisposed, disposed] at live
    cases live

theorem Coherent.after (coherent : stage.Coherent) (operation : Operation) :
    (stage.after operation).Coherent := by
  cases life : stage.isDisposed with
  | true =>
      rw [after_of_disposed life]
      exact coherent.disposedAfter life operation
  | false =>
      rw [after_of_live life]
      exact coherent.liveAfter life operation

theorem Coherent.run (coherent : stage.Coherent) (operations : List Operation) :
    (stage.run operations).Coherent := by
  induction operations generalizing stage with
  | nil => exact coherent
  | cons operation later ih => exact ih (coherent.after operation)

/-- Whether an operation makes a stage draw a frame. -/
def draws (stage : Stage) : Operation → Bool
  | .ready => !stage.isDisposed
  | .start => stage.simulation.phase = .constructed
  | .tick | .tickBy _ => stage.simulation.phase.isShown
  | operation => !stage.isDisposed && operation.replaces

/-- Whether an operation makes a stage step its world. -/
def steps (stage : Stage) : Operation → Bool
  | .tick | .tickBy _ => stage.simulation.phase = .running
  | _ => false

/-- How many operations of a run are of a kind, each judged by the stage that it finds. -/
def tally (kind : Stage → Operation → Bool) (stage : Stage) : List Operation → Nat
  | [] => 0
  | operation :: later => (kind stage operation).toNat + tally kind (stage.after operation) later

theorem frames_loaded (live : stage.isDisposed = false) (scene : Scene) :
    (stage.loaded scene).simulation.surface.frames =
      stage.simulation.surface.frames +
        UInt64.ofNat (!stage.isDisposed && scene.bodies.isSome).toNat := by
  have kept := Playfield.framed_frames stage.simulation scene.world
  cases bodies : scene.bodies with
  | none =>
      rw [stage.simulation_loaded_of_none bodies, live, kept]
      exact (UInt64.add_zero _).symm
  | some entries =>
      rcases stage.simulation_loaded_of_some bodies with ⟨world, same⟩
      rw [same, live, ← kept]
      rfl

theorem ticks_loaded (scene : Scene) :
    (stage.loaded scene).simulation.runner.ticks = stage.simulation.runner.ticks := by
  have kept := Playfield.framed_runner stage.simulation scene.world
  cases bodies : scene.bodies with
  | none => rw [stage.simulation_loaded_of_none bodies, kept]
  | some entries =>
      rcases stage.simulation_loaded_of_some bodies with ⟨world, same⟩
      rw [same, ← kept]
      rfl

theorem add_none {before after : UInt64} (same : after = before) :
    after = before + UInt64.ofNat false.toNat := by
  simpa using same

/-- An operation draws one frame or none, as the stage that it finds promises. -/
theorem Coherent.frames_after (coherent : stage.Coherent) (operation : Operation) :
    (stage.after operation).simulation.surface.frames =
      stage.simulation.surface.frames + UInt64.ofNat (stage.draws operation).toNat := by
  cases life : stage.isDisposed with
  | true =>
      have phase : stage.simulation.phase = .disposed := of_decide_eq_true life
      have nothing : stage.draws operation = false := by
        cases operation <;> simp [draws, life, phase, Phase.isShown]
      rw [after_of_disposed life, simulation_disposedAfter, nothing]
      exact add_none rfl
  | false =>
      rw [after_of_live life]
      cases operation with
      | ready =>
          simp only [draws, life]
          rfl
      | start => exact Simulation.frames_started _
      | pause =>
          simp only [draws, Operation.replaces, Bool.and_false]
          exact add_none (Simulation.frames_halted _)
      | tick => exact coherent.simulation.frames_ticked _
      | tickBy duration => exact coherent.simulation.frames_ticked _
      | load scene => exact frames_loaded life scene
      | loadText text =>
          simp only [Stage.liveAfter, draws, Operation.replaces]
          cases Scene.decode text with
          | ok scene => exact frames_loaded life scene
          | error fault => simp
      | resizeWindow width height =>
          simp only [Stage.liveAfter, resizeWindow, life, Bool.false_eq_true, if_false, draws,
            Operation.replaces, Bool.and_false]
          exact add_none rfl
      | dispose =>
          simp only [draws, Operation.replaces, Bool.and_false]
          exact add_none (Simulation.frames_dispose _)
      | noteDebug debug | register name factory | bodies | snapshot | camera =>
          simp only [draws, Operation.replaces, Bool.and_false]
          exact add_none rfl
      | arrive result =>
          cases result with
          | ok scene => exact frames_loaded life scene
          | error failure =>
              simp only [draws, Operation.replaces, Bool.and_false]
              exact add_none rfl

/-- An operation makes one step or none, as the stage that it finds promises. -/
theorem Coherent.ticks_after (coherent : stage.Coherent) (operation : Operation) :
    (stage.after operation).simulation.runner.ticks =
      stage.simulation.runner.ticks + UInt64.ofNat (stage.steps operation).toNat := by
  cases life : stage.isDisposed with
  | true =>
      have phase : stage.simulation.phase = .disposed := of_decide_eq_true life
      have nothing : stage.steps operation = false := by
        cases operation <;> simp [steps, phase]
      rw [after_of_disposed life, simulation_disposedAfter, nothing]
      exact add_none rfl
  | false =>
      rw [after_of_live life]
      cases operation with
      | ready => exact add_none rfl
      | start => exact add_none (Simulation.ticks_started _)
      | pause => exact add_none (Simulation.ticks_halted _)
      | tick => exact coherent.simulation.ticks_ticked _
      | tickBy duration => exact coherent.simulation.ticks_ticked _
      | load scene => exact add_none (ticks_loaded scene)
      | loadText text =>
          simp only [Stage.liveAfter, steps]
          cases Scene.decode text with
          | ok scene => exact add_none (ticks_loaded scene)
          | error fault => exact add_none rfl
      | resizeWindow width height =>
          simp only [Stage.liveAfter, resizeWindow, life, Bool.false_eq_true, if_false]
          exact add_none rfl
      | dispose => exact add_none (Simulation.ticks_dispose _)
      | noteDebug debug | register name factory => exact add_none rfl
      | bodies | snapshot | camera => exact add_none rfl
      | arrive result =>
          cases result with
          | ok scene => exact add_none (ticks_loaded scene)
          | error failure => exact add_none rfl

/-- A counter that every operation advances as its kind says counts the operations of the kind. -/
theorem Coherent.count_run (counter : Stage → UInt64) (kind : Stage → Operation → Bool)
    (advances : ∀ stage : Stage, stage.Coherent → ∀ operation,
      counter (stage.after operation) =
        counter stage + UInt64.ofNat (kind stage operation).toNat)
    (coherent : stage.Coherent) (operations : List Operation) :
    counter (stage.run operations) =
      counter stage + UInt64.ofNat (stage.tally kind operations) := by
  induction operations generalizing stage with
  | nil => exact (UInt64.add_zero _).symm
  | cons operation later ih =>
      calc
        counter ((stage.after operation).run later) =
            counter (stage.after operation) +
              UInt64.ofNat ((stage.after operation).tally kind later) :=
          ih (coherent.after operation)
        _ = counter stage + UInt64.ofNat (kind stage operation).toNat +
              UInt64.ofNat ((stage.after operation).tally kind later) := by
          rw [advances stage coherent operation]
        _ = counter stage + UInt64.ofNat (stage.tally kind (operation :: later)) := by
          rw [tally, UInt64.ofNat_add, UInt64.add_assoc]

/-- What a run of a fresh stage leads to. -/
structure Traced (settings : Settings) (operations : List Operation) (stage : Stage) : Prop where
  coherent : stage.Coherent
  /-- A stage that has left its first phase never comes back to it. -/
  leaves_constructed : ∀ later, stage.simulation.phase ≠ .constructed →
    (stage.run later).simulation.phase ≠ .constructed
  /-- A beat moves the world exactly while the simulation is running. -/
  answer_tick_iff :
    stage.answer .tick = .ok (.stepped true) ↔ stage.simulation.phase = .running
  answer_tickBy_iff : ∀ duration,
    stage.answer (.tickBy duration) = .ok (.stepped true) ↔ stage.simulation.phase = .running
  /-- The runner counted the beats that found the simulation running. -/
  ticks_eq : stage.simulation.runner.ticks = UInt64.ofNat ((new settings).tally steps operations)
  /-- The surface counted the operations that drew. -/
  frames_eq :
    stage.simulation.surface.frames = UInt64.ofNat ((new settings).tally draws operations)

theorem Coherent.answer_tickBy_iff (coherent : stage.Coherent) (duration : Float32) :
    stage.answer (.tickBy duration) = .ok (.stepped true) ↔
      stage.simulation.phase = .running := by
  cases life : stage.isDisposed with
  | true =>
      have phase : stage.simulation.phase = .disposed := of_decide_eq_true life
      simp [answer_of_disposed life, disposedAnswer, phase]
  | false => simp [answer_of_live life, liveAnswer, coherent.simulation.runner_steps]

theorem answer_tick (stage : Stage) :
    stage.answer .tick = stage.answer (.tickBy stage.settings.timeStep) := by
  cases life : stage.isDisposed with
  | true => rw [answer_of_disposed life, answer_of_disposed life, disposedAnswer, disposedAnswer]
  | false => rw [answer_of_live life, answer_of_live life, liveAnswer, liveAnswer]

end Stage

end PhysicsScene
