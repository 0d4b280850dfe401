import PhysicsScene.Proofs.Stage.Outcome

/-!
# Phases along the runs of a stage

Which phase an operation leads to depends on nothing but the phase before it. `Phase.next` is this
automaton: a scene with a list of bodies makes a stage ready like `ready` itself, and no way leads
back to the first phase or out of the last one.
-/

namespace PhysicsScene

namespace Operation

/-- Whether an operation brings a scene with a list of bodies. -/
def replaces : Operation → Bool
  | .load scene | .arrive (.ok scene) => scene.bodies.isSome
  | .loadText text =>
      match Scene.decode text with
      | .ok scene => scene.bodies.isSome
      | .error _ => false
  | _ => false

/-- Whether an operation ends a stage. -/
def ends : Operation → Bool
  | .dispose => true
  | _ => false

end Operation

namespace Phase

/-- The phase after an operation. -/
def next (phase : Phase) (operation : Operation) : Phase :=
  if phase = .disposed then .disposed
  else
    match operation with
    | .ready => .ready
    | .start => .running
    | .pause => if phase = .running then .paused else phase
    | .dispose => .disposed
    | operation => if operation.replaces then .ready else phase

theorem next_of_ne_disposed {phase : Phase} (live : phase ≠ .disposed) (operation : Operation) :
    phase.next operation =
      match operation with
      | .ready => .ready
      | .start => .running
      | .pause => if phase = .running then .paused else phase
      | .dispose => .disposed
      | operation => if operation.replaces then .ready else phase :=
  if_neg live

theorem next_ne_constructed {phase : Phase} (hasLeft : phase ≠ .constructed)
    (operation : Operation) : phase.next operation ≠ .constructed := by
  by_cases disposed : phase = .disposed
  · simp [next, disposed]
  · rw [next_of_ne_disposed disposed]
    cases operation <;> simp <;> split <;> simp [hasLeft]

theorem next_eq_disposed_iff (phase : Phase) (operation : Operation) :
    phase.next operation = .disposed ↔ phase = .disposed ∨ operation.ends = true := by
  by_cases disposed : phase = .disposed
  · simp [next, disposed]
  · cases operation <;> simp [next, disposed, Operation.ends] <;> split <;> simp [disposed]

end Phase

namespace Stage

theorem phase_loaded (stage : Stage) (scene : Scene) :
    (stage.loaded scene).simulation.phase =
      if scene.bodies.isSome then .ready else stage.simulation.phase := by
  cases bodies : scene.bodies with
  | none =>
      rw [stage.simulation_loaded_of_none bodies, Playfield.framed_phase]
      rfl
  | some entries =>
      rcases stage.simulation_loaded_of_some bodies with ⟨world, same⟩
      rw [same]
      rfl

/-- Every operation leads to the next phase. -/
theorem phase_after (stage : Stage) (operation : Operation) :
    (stage.after operation).simulation.phase = stage.simulation.phase.next operation := by
  cases life : stage.isDisposed with
  | true =>
      have phase : stage.simulation.phase = .disposed := of_decide_eq_true life
      rw [after_of_disposed life, simulation_disposedAfter, phase]
      rfl
  | false =>
      have phase : stage.simulation.phase ≠ .disposed := of_decide_eq_false life
      rw [after_of_live life, Phase.next_of_ne_disposed phase]
      cases operation with
      | ready => rfl
      | start => exact Simulation.phase_started phase
      | pause => exact Simulation.phase_halted _
      | tick => exact Simulation.phase_ticked _ _
      | tickBy duration => exact Simulation.phase_ticked _ _
      | load scene => exact phase_loaded stage scene
      | loadText text =>
          cases decoded : Scene.decode text with
          | ok scene =>
              simp only [liveAfter, Operation.replaces, decoded]
              exact phase_loaded stage scene
          | error fault => simp [liveAfter, Operation.replaces, decoded]
      | resizeWindow width height =>
          simp only [liveAfter, resizeWindow, life, Bool.false_eq_true, if_false]
          rfl
      | dispose => exact Simulation.phase_dispose _
      | noteDebug debug | register name factory | bodies | snapshot | camera => rfl
      | arrive result =>
          cases result with
          | ok scene => exact phase_loaded stage scene
          | error failure => rfl

theorem isDisposed_after (stage : Stage) (operation : Operation) :
    (stage.after operation).isDisposed = (stage.isDisposed || operation.ends) := by
  rw [Bool.eq_iff_iff]
  simp [isDisposed, Simulation.isDisposed, phase_after, Phase.next_eq_disposed_iff]

/-- A stage that has left its first phase never comes back to it. -/
theorem phase_run_ne_constructed {stage : Stage} (hasLeft : stage.simulation.phase ≠ .constructed)
    (operations : List Operation) : (stage.run operations).simulation.phase ≠ .constructed := by
  induction operations generalizing stage with
  | nil => exact hasLeft
  | cons operation later ih =>
      refine ih ?_
      rw [phase_after]
      exact Phase.next_ne_constructed hasLeft operation

end Stage

end PhysicsScene
