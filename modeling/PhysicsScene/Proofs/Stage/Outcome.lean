import PhysicsScene.Proofs.Loading.Replacement
import PhysicsScene.Stage.Operation

/-!
# Outcomes of operations

Whether a stage lives decides what an operation does to it. On a live stage nothing is refused:
only a text that does not decode fails, and each operation moves the stage by one plain function.
A disposed stage still takes new settings and shapes, and whatever needs the simulation is refused
under a name. The runs of a stage are reasoned about by these functions alone.
-/

namespace PhysicsScene

namespace Stage

/-- The stage with its playfield as a load leaves it. -/
def loaded (stage : Stage) (scene : Scene) : Stage :=
  { stage with playfield := stage.playfield.loaded scene }

theorem simulation_loaded_of_none (stage : Stage) {scene : Scene}
    (unlisted : scene.bodies = none) :
    (stage.loaded scene).simulation = Playfield.framed stage.simulation scene.world := by
  simp only [simulation, loaded, Playfield.loaded, unlisted]

/-- A scene with a list of bodies makes the simulation ready with another world. -/
theorem simulation_loaded_of_some (stage : Stage) {scene : Scene} {entries : List SceneEntry}
    (listed : scene.bodies = some entries) :
    ∃ world, (stage.loaded scene).simulation =
      Simulation.readied { Playfield.framed stage.simulation scene.world with world } := by
  simp only [simulation, loaded, Playfield.loaded, listed]
  exact ⟨_, rfl⟩

theorem bindings_loaded_of_none (stage : Stage) {scene : Scene}
    (unlisted : scene.bodies = none) :
    (stage.loaded scene).playfield.bindings = stage.playfield.bindings := by
  simp only [loaded, Playfield.loaded, unlisted]

/-- The stage after an operation, if it is live. -/
def liveAfter (stage : Stage) : Operation → Stage
  | .ready => stage.mapSimulation (·.readied)
  | .start => stage.mapSimulation (·.started)
  | .pause => stage.mapSimulation (·.halted)
  | .tick => stage.mapSimulation (·.ticked stage.settings.timeStep)
  | .tickBy duration => stage.mapSimulation (·.ticked duration)
  | .load scene => stage.loaded scene
  | .loadText text =>
      match Scene.decode text with
      | .ok scene => stage.loaded scene
      | .error _ => stage
  | .resizeWindow width height => stage.resizeWindow width height
  | .noteDebug debug => stage.noteDebug debug
  | .register name factory => stage.register name factory
  | .dispose => stage.dispose
  | .bodies | .snapshot | .camera => stage
  | .arrive (.ok scene) => stage.loaded scene
  | .arrive (.error _) => stage

/-- The answer to an operation, if the stage is live. -/
def liveAnswer (stage : Stage) : Operation → Except Failure Answer
  | .tick | .tickBy _ =>
      .ok (.stepped (stage.simulation.phase = .running && stage.simulation.runner.steps))
  | .load scene => .ok (.loaded (stage.playfield.summary scene))
  | .loadText text =>
      match Scene.decode text with
      | .ok scene => .ok (.loaded (stage.playfield.summary scene))
      | .error fault => .error (.undecodable fault)
  | .bodies => .ok (.bodies stage.simulation.world.memberBodies)
  | .snapshot => .ok (.snapshot stage.simulation.world.snapshot)
  | .camera => .ok (.camera stage.simulation.surface.camera)
  | .arrive (.ok scene) => .ok (.compiled (.loaded (stage.playfield.summary scene)))
  | .arrive (.error failure) => .ok (.compiled (.failed failure))
  | _ => .ok .done

/-- The stage after an operation, if it is disposed. -/
def disposedAfter (stage : Stage) : Operation → Stage
  | .resizeWindow width height => { stage with settings := { stage.settings with width, height } }
  | .noteDebug debug => stage.noteDebug debug
  | .register name factory => stage.register name factory
  | _ => stage

/-- The answer to an operation of a disposed stage. -/
def disposedAnswer : Operation → Except Failure Answer
  | .ready => .error (.disposed "ready")
  | .start => .error (.disposed "start")
  | .pause => .error (.disposed "pause")
  | .tick | .tickBy _ => .error (.disposed "tick")
  | .load _ => .error (.disposed "load")
  | .loadText text =>
      match Scene.decode text with
      | .ok _ => .error (.disposed "load")
      | .error fault => .error (.undecodable fault)
  | .bodies | .snapshot => .error (.disposed "engine")
  | .camera => .error (.disposed "surface")
  | .arrive _ => .ok (.compiled .discarded)
  | .resizeWindow _ _ | .noteDebug _ | .register _ _ | .dispose => .ok .done

section Simulation

variable {α : Type} {action : Action Simulation α} {operation : String} {answer : α}
  {after : Simulation} {stage : Stage}

theorem outcome_onSimulation (action : Action Simulation α) (stage : Stage) :
    (onSimulation action).outcome stage =
      ((action.outcome stage.simulation).1,
        stage.mapSimulation fun _ => (action.outcome stage.simulation).2) :=
  rfl

theorem outcome_onSimulation_of_live (live : stage.isDisposed = false)
    (guarded : action.outcome stage.simulation = stage.simulation.guarded operation answer after) :
    (onSimulation action).outcome stage = (.ok answer, stage.mapSimulation fun _ => after) := by
  rw [outcome_onSimulation, guarded, Simulation.guarded_of_live live]

theorem outcome_onSimulation_of_disposed (disposed : stage.isDisposed = true)
    (guarded : action.outcome stage.simulation = stage.simulation.guarded operation answer after) :
    (onSimulation action).outcome stage = (.error (.disposed operation), stage) := by
  rw [outcome_onSimulation, guarded, Simulation.guarded_of_disposed disposed]
  rfl

end Simulation

theorem outcome_load (scene : Scene) (stage : Stage) :
    (load scene).outcome stage =
      if stage.isDisposed then (.error (.disposed "load"), stage)
      else (.ok (stage.playfield.summary scene), stage.loaded scene) := by
  have inside : (load scene).outcome stage =
      (((Playfield.load scene).outcome stage.playfield).1,
        { stage with playfield := ((Playfield.load scene).outcome stage.playfield).2 }) :=
    rfl
  rw [inside, Playfield.outcome_load]
  cases disposed : stage.isDisposed with
  | true => simp [show stage.playfield.simulation.isDisposed = true from disposed]
  | false => simp [show stage.playfield.simulation.isDisposed = false from disposed, loaded]

theorem outcome_loadText (text : String) (stage : Stage) :
    (loadText text).outcome stage =
      match Scene.decode text with
      | .ok scene => (load scene).outcome stage
      | .error fault => (.error (.undecodable fault), stage) := by
  cases decoded : Scene.decode text <;> simp [loadText, decoded, Failure.ofFault]

/-- A disposed stage discards whatever arrives; a live one loads a scene and reports a failure. -/
theorem run_arrive (result : Except Failure Scene) (stage : Stage) :
    (arrive result).run stage =
      if stage.isDisposed then (.discarded, stage)
      else
        match result with
        | .ok scene => (.loaded (stage.playfield.summary scene), stage.loaded scene)
        | .error failure => (.failed failure, stage) := by
  have loads : ∀ scene, (load scene).run.run stage = (load scene).outcome stage := fun _ => rfl
  cases disposed : stage.isDisposed with
  | true =>
      simp only [arrive, StateT.run_bind, StateT.run_get, disposed, pure_bind, if_true]
      rfl
  | false =>
      cases result with
      | error failure =>
          simp only [arrive, StateT.run_bind, StateT.run_get, disposed, pure_bind]
          rfl
      | ok scene =>
          simp [arrive, disposed, loads, outcome_load]
          rfl

theorem outcome_perform_of_disposed {stage : Stage} (disposed : stage.isDisposed = true)
    (operation : Operation) :
    (perform operation).outcome stage =
      (disposedAnswer operation, stage.disposedAfter operation) := by
  cases operation with
  | ready =>
      have refused := outcome_onSimulation_of_disposed disposed (Simulation.outcome_ready _)
      simp only [perform, ready, Action.outcome_bind, refused]
      rfl
  | start =>
      have refused := outcome_onSimulation_of_disposed disposed (Simulation.outcome_start _)
      simp only [perform, start, Action.outcome_bind, refused]
      rfl
  | pause =>
      have refused := outcome_onSimulation_of_disposed disposed (Simulation.outcome_pause _)
      simp only [perform, pause, Action.outcome_bind, refused]
      rfl
  | tick =>
      have refused := outcome_onSimulation_of_disposed disposed
        (Simulation.outcome_tick stage.settings.timeStep _)
      simp only [perform, tick, tickBy, Action.outcome_map, Action.outcome_bind,
        Action.outcome_get, refused]
      rfl
  | tickBy duration =>
      have refused := outcome_onSimulation_of_disposed disposed (Simulation.outcome_tick duration _)
      simp only [perform, tickBy, Action.outcome_map, refused]
      rfl
  | load scene => simp [perform, outcome_load, disposed, disposedAnswer, disposedAfter]
  | loadText text =>
      cases decoded : Scene.decode text <;>
        simp [perform, outcome_loadText, outcome_load, decoded, disposed, disposedAnswer,
          disposedAfter]
  | resizeWindow width height =>
      simp [perform, resizeWindow, disposed, disposedAnswer, disposedAfter]
  | noteDebug debug => rfl
  | register name factory => rfl
  | dispose =>
      have ended : stage.playfield.simulation.isDisposed = true := disposed
      simp [perform, dispose, mapSimulation, Simulation.dispose, ended, disposedAnswer,
        disposedAfter]
  | bodies =>
      have refused := outcome_onSimulation_of_disposed disposed (Simulation.outcome_liveWorld _)
      simp only [perform, bodies, Action.outcome_map, Action.outcome_bind, refused]
      rfl
  | snapshot =>
      have refused := outcome_onSimulation_of_disposed disposed (Simulation.outcome_liveWorld _)
      simp only [perform, snapshot, Action.outcome_map, Action.outcome_bind, refused]
      rfl
  | camera =>
      have refused := outcome_onSimulation_of_disposed disposed (Simulation.outcome_liveSurface _)
      simp only [perform, camera, Action.outcome_map, Action.outcome_bind, refused]
      rfl
  | arrive result => simp [perform, run_arrive, disposed, disposedAnswer, disposedAfter]

theorem outcome_perform_of_live {stage : Stage} (live : stage.isDisposed = false)
    (operation : Operation) :
    (perform operation).outcome stage =
      (stage.liveAnswer operation, stage.liveAfter operation) := by
  cases operation with
  | ready =>
      have done := outcome_onSimulation_of_live live (Simulation.outcome_ready _)
      simp only [perform, ready, Action.outcome_bind, done]
      rfl
  | start =>
      have done := outcome_onSimulation_of_live live (Simulation.outcome_start _)
      simp only [perform, start, Action.outcome_bind, done]
      rfl
  | pause =>
      have done := outcome_onSimulation_of_live live (Simulation.outcome_pause _)
      simp only [perform, pause, Action.outcome_bind, done]
      rfl
  | tick =>
      have done := outcome_onSimulation_of_live live
        (Simulation.outcome_tick stage.settings.timeStep _)
      simp only [perform, tick, tickBy, Action.outcome_map, Action.outcome_bind,
        Action.outcome_get, done]
      rfl
  | tickBy duration =>
      have done := outcome_onSimulation_of_live live (Simulation.outcome_tick duration _)
      simp only [perform, tickBy, Action.outcome_map, done]
      rfl
  | load scene => simp [perform, outcome_load, live, liveAnswer, liveAfter]
  | loadText text =>
      cases decoded : Scene.decode text <;>
        simp [perform, outcome_loadText, outcome_load, decoded, live, liveAnswer, liveAfter]
  | resizeWindow width height => rfl
  | noteDebug debug => rfl
  | register name factory => rfl
  | dispose => rfl
  | bodies =>
      have found := outcome_onSimulation_of_live live (Simulation.outcome_liveWorld _)
      simp only [perform, bodies, Action.outcome_map, Action.outcome_bind, found,
        Action.outcome_pure]
      rfl
  | snapshot =>
      have found := outcome_onSimulation_of_live live (Simulation.outcome_liveWorld _)
      simp only [perform, snapshot, Action.outcome_map, Action.outcome_bind, found,
        Action.outcome_pure]
      rfl
  | camera =>
      have found := outcome_onSimulation_of_live live (Simulation.outcome_liveSurface _)
      simp only [perform, camera, Action.outcome_map, Action.outcome_bind, found,
        Action.outcome_pure]
      rfl
  | arrive result =>
      cases result <;> simp [perform, run_arrive, live, liveAnswer, liveAfter]

/-- The answer to an operation. -/
def answer (stage : Stage) (operation : Operation) : Except Failure Answer :=
  ((perform operation).outcome stage).1

section Disposed

variable {stage : Stage} (disposed : stage.isDisposed = true) (operation : Operation)

include disposed

theorem answer_of_disposed : stage.answer operation = disposedAnswer operation := by
  rw [answer, outcome_perform_of_disposed disposed]

theorem after_of_disposed : stage.after operation = stage.disposedAfter operation :=
  congrArg Prod.snd (outcome_perform_of_disposed disposed operation)

end Disposed

section Live

variable {stage : Stage} (live : stage.isDisposed = false) (operation : Operation)

include live

theorem answer_of_live : stage.answer operation = stage.liveAnswer operation := by
  rw [answer, outcome_perform_of_live live]

theorem after_of_live : stage.after operation = stage.liveAfter operation :=
  congrArg Prod.snd (outcome_perform_of_live live operation)

end Live

theorem simulation_disposedAfter (stage : Stage) (operation : Operation) :
    (stage.disposedAfter operation).simulation = stage.simulation := by
  cases operation <;> rfl

theorem bindings_disposedAfter (stage : Stage) (operation : Operation) :
    (stage.disposedAfter operation).playfield.bindings = stage.playfield.bindings := by
  cases operation <;> rfl

theorem run_concat (stage : Stage) (operations : List Operation) (operation : Operation) :
    stage.run (operations ++ [operation]) = (stage.run operations).after operation := by
  simp only [run, List.foldl_append, List.foldl_cons, List.foldl_nil]

end Stage

end PhysicsScene
