import Mathlib.Data.List.Induction
import PhysicsScene.Proofs.Stage.Outcome

/-!
# The end of a stage

A disposed stage never comes back. Whatever the host does with it later, and whatever arrives from
requests that were made before, its simulation stays as it was released and its names keep their
bodies; only the settings and the registry still take what the host records. The proof looks at
one operation of a disposed stage and goes through the later operations from the end of the list.
-/

namespace PhysicsScene

/-- The settings after an operation: only a window size and the debug flag are recorded. -/
def Settings.recorded (settings : Settings) : Operation → Settings
  | .resizeWindow width height => { settings with width, height }
  | .noteDebug debug => { settings with debug }
  | _ => settings

namespace Stage

/-- How a stage refuses every use of its simulation. -/
structure Refuses (stage : Stage) : Prop where
  ready : stage.answer .ready = .error (.disposed "ready")
  start : stage.answer .start = .error (.disposed "start")
  pause : stage.answer .pause = .error (.disposed "pause")
  tick : stage.answer .tick = .error (.disposed "tick")
  tickBy : ∀ duration, stage.answer (.tickBy duration) = .error (.disposed "tick")
  load : ∀ scene, stage.answer (.load scene) = .error (.disposed "load")
  bodies : stage.answer .bodies = .error (.disposed "engine")
  snapshot : stage.answer .snapshot = .error (.disposed "engine")
  camera : stage.answer .camera = .error (.disposed "surface")
  /-- A text is decoded before the stage is looked at. -/
  loadText_undecodable_iff : ∀ text fault,
    stage.answer (.loadText text) = .error (.undecodable fault) ↔ Scene.decode text = .error fault
  loadText_disposed_iff : ∀ text,
    stage.answer (.loadText text) = .error (.disposed "load") ↔
      ∃ scene, Scene.decode text = .ok scene
  arrive : ∀ result, stage.answer (.arrive result) = .ok (.compiled .discarded)
  /-- What is refused or discarded changes nothing at all. -/
  after_eq : ∀ operation, (∀ width height, operation ≠ .resizeWindow width height) →
    (∀ debug, operation ≠ .noteDebug debug) →
    (∀ name factory, operation ≠ .register name factory) → stage.after operation = stage

theorem refuses_of_disposed {stage : Stage} (disposed : stage.isDisposed = true) :
    stage.Refuses where
  ready := answer_of_disposed disposed _
  start := answer_of_disposed disposed _
  pause := answer_of_disposed disposed _
  tick := answer_of_disposed disposed _
  tickBy := fun _ => answer_of_disposed disposed _
  load := fun _ => answer_of_disposed disposed _
  bodies := answer_of_disposed disposed _
  snapshot := answer_of_disposed disposed _
  camera := answer_of_disposed disposed _
  loadText_undecodable_iff := by
    intro text fault
    rw [answer_of_disposed disposed, disposedAnswer]
    cases decoded : Scene.decode text <;> simp
  loadText_disposed_iff := by
    intro text
    rw [answer_of_disposed disposed, disposedAnswer]
    cases decoded : Scene.decode text <;> simp
  arrive := fun _ => answer_of_disposed disposed _
  after_eq := by
    intro operation notResize notDebug notRegister
    rw [after_of_disposed disposed]
    cases operation with
    | resizeWindow width height => exact absurd rfl (notResize width height)
    | noteDebug debug => exact absurd rfl (notDebug debug)
    | register name factory => exact absurd rfl (notRegister name factory)
    | _ => rfl

/-- What is left of a stage that was disposed, after later operations. -/
structure Remains (stage : Stage) (later : List Operation) (ended : Stage) : Prop where
  phase_eq : ended.simulation.phase = .disposed
  /-- The simulation stays as `dispose` left it. -/
  simulation_eq : ended.simulation = stage.simulation.dispose
  bindings_eq : ended.playfield.bindings = stage.playfield.bindings
  /-- The body behind every handle, bound or not, is the one from before the end. -/
  body?_eq : ∀ handle,
    ended.simulation.world.body? handle = stage.simulation.world.body? handle
  settings_eq : ended.settings = later.foldl Settings.recorded stage.settings
  refuses : ended.Refuses

theorem settings_disposedAfter (stage : Stage) (operation : Operation) :
    (stage.disposedAfter operation).settings = stage.settings.recorded operation := by
  cases operation <;> rfl

/-- One more operation leaves the same remains. -/
theorem Remains.after {stage ended : Stage} {later : List Operation}
    (remains : stage.Remains later ended) (operation : Operation) :
    stage.Remains (later ++ [operation]) (ended.after operation) := by
  have disposed : ended.isDisposed = true := by
    simp only [Stage.isDisposed, Simulation.isDisposed, remains.phase_eq, decide_true]
  rw [after_of_disposed disposed]
  have same := simulation_disposedAfter ended operation
  have stillDisposed : (ended.disposedAfter operation).isDisposed = true := by
    rw [Stage.isDisposed, same]
    exact disposed
  exact
    { phase_eq := by rw [same, remains.phase_eq]
      simulation_eq := by rw [same, remains.simulation_eq]
      bindings_eq := by rw [bindings_disposedAfter, remains.bindings_eq]
      body?_eq := by
        intro handle
        rw [same, remains.body?_eq]
      settings_eq := by
        rw [settings_disposedAfter, remains.settings_eq, List.foldl_append, List.foldl_cons,
          List.foldl_nil]
      refuses := refuses_of_disposed stillDisposed }

theorem remains_dispose (stage : Stage) : stage.Remains [] stage.dispose := by
  have ended : stage.dispose.simulation = stage.simulation.dispose := rfl
  have phase := stage.simulation.phase_dispose
  have disposed : stage.dispose.isDisposed = true := by
    simp only [isDisposed, ended, Simulation.isDisposed, phase, decide_true]
  refine ⟨phase, rfl, rfl, ?_, rfl, refuses_of_disposed disposed⟩
  intro handle
  rw [ended, Simulation.dispose]
  split <;> rfl

/-- Disposal is final, for every stage and every list of later operations. -/
theorem remains_run_dispose (stage : Stage) (later : List Operation) :
    stage.Remains later (stage.dispose.run later) := by
  induction later using List.reverseRecOn with
  | nil => exact remains_dispose stage
  | append_singleton later operation ih =>
      rw [run_concat]
      exact ih.after operation

end Stage

end PhysicsScene
