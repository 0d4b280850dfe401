import PhysicsScene.Proofs.Stage.Coherence

/-!
# What operations leave alone

Only a scene with a list of bodies changes which bodies are in the world and what their names are.
Of all other operations a beat may move the world, by the duration that `Stage.beat?` gives, and
`dispose` empties it; the registry changes by nothing but a registration.
-/

namespace PhysicsScene

namespace Simulation

variable {simulation : Simulation}

theorem world_started (simulation : Simulation) : simulation.started.world = simulation.world := by
  cases phase : simulation.phase <;>
    simp [started, phase, present, setEnabled, inPhase]

theorem world_halted (simulation : Simulation) : simulation.halted.world = simulation.world := by
  cases phase : simulation.phase <;> simp [halted, phase, setEnabled, inPhase]

theorem Coherent.world_ticked (coherent : simulation.Coherent) (duration : Float32) :
    (simulation.ticked duration).world =
      if simulation.phase = .running then simulation.world.step duration
      else simulation.world := by
  cases phase : simulation.phase with
  | running => simp [Simulation.ticked, phase, coherent.tickRunner phase, draw]
  | _ => simp [Simulation.ticked, phase, draw]

end Simulation

namespace Operation

/-- The scene that an operation brings. -/
def scene? : Operation → Option Scene
  | .load scene | .arrive (.ok scene) => some scene
  | .loadText text => (Scene.decode text).toOption
  | _ => none

theorem replaces_eq (operation : Operation) :
    operation.replaces = (operation.scene?.bind (·.bodies)).isSome := by
  cases operation with
  | load scene => rfl
  | loadText text =>
      simp only [replaces, scene?]
      cases Scene.decode text <;> rfl
  | arrive result => cases result <;> rfl
  | _ => rfl

theorem exists_scene_of_replaces {operation : Operation} (replaces : operation.replaces = true) :
    ∃ scene entries, operation.scene? = some scene ∧ scene.bodies = some entries := by
  rw [replaces_eq] at replaces
  rcases Option.isSome_iff_exists.1 replaces with ⟨entries, listed⟩
  rcases Option.bind_eq_some_iff.1 listed with ⟨scene, brings, bodies⟩
  exact ⟨scene, entries, brings, bodies⟩

theorem replaces_of_scene? {operation : Operation} {scene : Scene}
    (brings : operation.scene? = some scene) : operation.replaces = scene.bodies.isSome := by
  rw [replaces_eq, brings]
  rfl

/-- The registry after an operation. -/
def registers (operation : Operation) (registry : Registry) : Registry :=
  match operation with
  | .register name factory => registry.register name factory
  | _ => registry

theorem registers_of_scene? {operation : Operation} {scene : Scene}
    (brings : operation.scene? = some scene) (registry : Registry) :
    operation.registers registry = registry := by
  cases operation with
  | register name factory => cases brings
  | _ => rfl

end Operation

namespace Answer

/-- The report of a load, whichever way the scene came. -/
def report? : Answer → Option LoadSummary
  | .loaded report | .compiled (.loaded report) => some report
  | _ => none

end Answer

namespace Stage

variable {stage : Stage}

/-- The report of an operation, if it loads a scene. -/
def report? (stage : Stage) (operation : Operation) : Option LoadSummary :=
  (stage.answer operation).toOption.bind Answer.report?

/-- A live stage reports on whatever scene an operation brings. -/
theorem report?_eq (stage : Stage) (operation : Operation) :
    stage.report? operation =
      if stage.isDisposed then none else operation.scene?.map stage.playfield.summary := by
  cases life : stage.isDisposed with
  | true =>
      rw [report?, answer_of_disposed life]
      cases operation with
      | loadText text =>
          simp only [disposedAnswer]
          cases Scene.decode text <;> rfl
      | _ => rfl
  | false =>
      rw [report?, answer_of_live life]
      cases operation with
      | loadText text =>
          simp only [liveAnswer, Operation.scene?]
          cases Scene.decode text <;> rfl
      | arrive result => cases result <;> rfl
      | _ => rfl

/-- The duration by which an operation moves the world, if it does. -/
def beat? (stage : Stage) : Operation → Option Float32
  | .tick => if stage.simulation.phase = .running then some stage.settings.timeStep else none
  | .tickBy duration => if stage.simulation.phase = .running then some duration else none
  | _ => none

/-- A live stage loads whatever scene an operation brings. -/
theorem after_of_scene? (live : stage.isDisposed = false) {operation : Operation} {scene : Scene}
    (brings : operation.scene? = some scene) : stage.after operation = stage.loaded scene := by
  rw [after_of_live live]
  cases operation with
  | load found =>
      cases brings
      rfl
  | loadText text =>
      cases decoded : Scene.decode text with
      | error fault =>
          simp only [Operation.scene?, decoded] at brings
          cases brings
      | ok found =>
          simp only [Operation.scene?, decoded] at brings
          cases brings
          simp only [liveAfter, decoded]
  | arrive result =>
      cases result with
      | error failure => cases brings
      | ok found =>
          cases brings
          rfl
  | _ => cases brings

theorem registry_loaded (stage : Stage) (scene : Scene) :
    (stage.loaded scene).playfield.registry = stage.playfield.registry := by
  cases bodies : scene.bodies <;> simp [loaded, Playfield.loaded, bodies]

/-- What an operation that brings no list of bodies does to the playfield of a stage. -/
structure Keeps (before : Stage) (operation : Operation) (after : Stage) : Prop where
  registry_eq : after.playfield.registry = operation.registers before.playfield.registry
  bindings_eq : after.playfield.bindings = before.playfield.bindings
  world_eq : operation.ends = false → after.simulation.world =
    match before.beat? operation with
    | some duration => before.simulation.world.step duration
    | none => before.simulation.world

theorem keeps_loaded (stage : Stage) {operation : Operation} {scene : Scene}
    (brings : operation.scene? = some scene) (unlisted : scene.bodies = none) :
    Keeps stage operation (stage.loaded scene) := by
  have still : stage.beat? operation = none := by
    cases operation with
    | tick => cases brings
    | tickBy duration => cases brings
    | _ => rfl
  refine ⟨?_, stage.bindings_loaded_of_none unlisted, ?_⟩
  · rw [registry_loaded, Operation.registers_of_scene? brings]
  · intro _
    rw [still, stage.simulation_loaded_of_none unlisted]
    cases scene.world <;> rfl

theorem keeps_disposedAfter (disposed : stage.isDisposed = true) (operation : Operation) :
    Keeps stage operation (stage.disposedAfter operation) := by
  have phase : stage.simulation.phase = .disposed := of_decide_eq_true disposed
  have still : stage.beat? operation = none := by
    cases operation <;> simp [beat?, phase]
  refine ⟨?_, bindings_disposedAfter stage operation, ?_⟩
  · cases operation <;> rfl
  · intro _
    rw [still, simulation_disposedAfter]

theorem Coherent.keeps_ticked (coherent : stage.Coherent) (duration : Float32) :
    (stage.mapSimulation (·.ticked duration)).simulation.world =
      match stage.beat? (.tickBy duration) with
      | some duration => stage.simulation.world.step duration
      | none => stage.simulation.world := by
  refine (coherent.simulation.world_ticked duration).trans ?_
  simp only [beat?]
  split <;> rfl

theorem Coherent.keeps_liveAfter (coherent : stage.Coherent) (live : stage.isDisposed = false)
    {operation : Operation} (brings : operation.scene? = none) :
    Keeps stage operation (stage.liveAfter operation) := by
  cases operation with
  | ready => exact ⟨rfl, rfl, fun _ => rfl⟩
  | start => exact ⟨rfl, rfl, fun _ => Simulation.world_started _⟩
  | pause => exact ⟨rfl, rfl, fun _ => Simulation.world_halted _⟩
  | tick => exact ⟨rfl, rfl, fun _ => coherent.keeps_ticked _⟩
  | tickBy duration => exact ⟨rfl, rfl, fun _ => coherent.keeps_ticked duration⟩
  | load scene => cases brings
  | loadText text =>
      cases decoded : Scene.decode text with
      | ok scene =>
          simp only [Operation.scene?, decoded] at brings
          cases brings
      | error fault =>
          simp only [Stage.liveAfter, decoded]
          exact ⟨rfl, rfl, fun _ => rfl⟩
  | resizeWindow width height =>
      simp only [Stage.liveAfter, resizeWindow, live, Bool.false_eq_true, if_false]
      exact ⟨rfl, rfl, fun _ => rfl⟩
  | noteDebug debug => exact ⟨rfl, rfl, fun _ => rfl⟩
  | register name factory => exact ⟨rfl, rfl, fun _ => rfl⟩
  | dispose =>
      refine ⟨rfl, rfl, ?_⟩
      intro goesOn
      cases goesOn
  | bodies | snapshot | camera => exact ⟨rfl, rfl, fun _ => rfl⟩
  | arrive result =>
      cases result with
      | ok scene => cases brings
      | error failure => exact ⟨rfl, rfl, fun _ => rfl⟩

/-- Without a list of bodies an operation keeps the registry and the names, and moves the world by
its beat at most. -/
theorem Coherent.keeps_after (coherent : stage.Coherent) {operation : Operation}
    (keeps : operation.replaces = false) : Keeps stage operation (stage.after operation) := by
  cases life : stage.isDisposed with
  | true =>
      rw [after_of_disposed life]
      exact keeps_disposedAfter life operation
  | false =>
      cases brings : operation.scene? with
      | some scene =>
          rw [Operation.replaces_of_scene? brings, Option.isSome_eq_false_iff,
            Option.isNone_iff_eq_none] at keeps
          rw [after_of_scene? life brings]
          exact keeps_loaded stage brings keeps
      | none =>
          rw [after_of_live life]
          exact coherent.keeps_liveAfter life brings

/-- Only a registration changes the registry. -/
theorem Coherent.registry_after (coherent : stage.Coherent) (operation : Operation) :
    (stage.after operation).playfield.registry =
      operation.registers stage.playfield.registry := by
  cases replaces : operation.replaces with
  | false => exact (coherent.keeps_after replaces).registry_eq
  | true =>
      cases life : stage.isDisposed with
      | true =>
          rw [after_of_disposed life]
          exact (keeps_disposedAfter life operation).registry_eq
      | false =>
          rcases Operation.exists_scene_of_replaces replaces with ⟨scene, _, brings, _⟩
          rw [after_of_scene? life brings, registry_loaded, Operation.registers_of_scene? brings]

/-- The registry of a run holds what was registered, and nothing that scenes brought. -/
theorem Coherent.registry_run (coherent : stage.Coherent) (operations : List Operation) :
    (stage.run operations).playfield.registry =
      operations.foldl (fun registry operation => operation.registers registry)
        stage.playfield.registry := by
  induction operations generalizing stage with
  | nil => rfl
  | cons operation later ih =>
      rw [List.foldl_cons, ← coherent.registry_after operation]
      exact ih (coherent.after operation)

/-- What can become of the world and the names of a stage in one operation. -/
inductive Turn (before : Stage) (operation : Operation) (after : Stage) : Prop
  | rests (world : after.simulation.world = before.simulation.world)
      (bindings : after.playfield.bindings = before.playfield.bindings)
  | moves (duration : Float32)
      (world : after.simulation.world = before.simulation.world.step duration)
      (bindings : after.playfield.bindings = before.playfield.bindings)
  | ends (world : after.simulation.world = before.simulation.world.clear)
      (disposed : after.isDisposed = true)
  | loads (scene : Scene) (entries : List SceneEntry) (live : before.isDisposed = false)
      (brings : operation.scene? = some scene) (listed : scene.bodies = some entries)
      (loaded : after = before.loaded scene)

theorem turn_dispose (live : stage.isDisposed = false) : Turn stage .dispose stage.dispose := by
  have disposed : stage.dispose.simulation = stage.simulation.dispose := rfl
  have phase := stage.simulation.phase_dispose
  refine .ends ?_ ?_
  · have notYet : stage.simulation.isDisposed = false := live
    rw [disposed, Simulation.dispose, notYet]
    rfl
  · rw [isDisposed, disposed, Simulation.isDisposed, phase]
    rfl

theorem Coherent.turn_after (coherent : stage.Coherent) (operation : Operation) :
    Turn stage operation (stage.after operation) := by
  cases life : stage.isDisposed with
  | true =>
      rw [after_of_disposed life]
      exact .rests (congrArg Simulation.world (simulation_disposedAfter stage operation))
        (bindings_disposedAfter stage operation)
  | false =>
      cases replaces : operation.replaces with
      | true =>
          rcases Operation.exists_scene_of_replaces replaces with
            ⟨scene, entries, brings, listed⟩
          exact .loads scene entries life brings listed (after_of_scene? life brings)
      | false =>
          have keeps := coherent.keeps_after replaces
          cases goesOn : operation.ends with
          | true =>
              cases operation with
              | dispose =>
                  rw [after_of_live life]
                  exact turn_dispose life
              | _ => cases goesOn
          | false =>
              have world := keeps.world_eq goesOn
              cases beat : stage.beat? operation with
              | none =>
                  rw [beat] at world
                  exact .rests world keeps.bindings_eq
              | some duration =>
                  rw [beat] at world
                  exact .moves duration world keeps.bindings_eq

end Stage

end PhysicsScene
