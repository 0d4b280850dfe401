import Mathlib.Logic.Function.Iterate
import PhysicsScene.Proofs.Stage.Trajectory

/-!
# Equal steps

The beats of a running stage are steps of its world by the duration of the settings, and nothing
else (`Stage.Coherent.advances_run`). A body of the world takes as many steps of its own, and a name
goes on standing for its body. So where the named bodies are after some beats is known from where
they were before (`Stage.Advances.named?_eq`).
-/

namespace PhysicsScene

namespace Motion

/-- The motion after a number of equal steps of a body by itself. -/
def stepped (gravity : Vector2) (drag : Option Float32) (duration : Float32) (steps : Nat)
    (motion : Motion) : Motion :=
  (fun motion => motion.step gravity drag duration)^[steps] motion

theorem foldl_replicate (gravity : Vector2) (drag : Option Float32) (duration : Float32)
    (steps : Nat) (motion : Motion) :
    (List.replicate steps duration).foldl (step gravity drag) motion =
      motion.stepped gravity drag duration steps := by
  induction steps generalizing motion with
  | zero => rfl
  | succ steps ih =>
      rw [List.replicate_succ, List.foldl_cons, ih, stepped, stepped, Function.iterate_succ_apply]

end Motion

namespace Body

theorem position_travel_replicate (gravity : Vector2) (duration : Float32) (steps : Nat)
    (body : Body) : (body.travel gravity (.replicate steps duration)).position =
      (body.motion.stepped gravity body.properties.drag duration steps).position := by
  rw [← Motion.foldl_replicate]
  rfl

end Body

namespace World

/-- The world after a number of equal steps. -/
def stepped (duration : Float32) (steps : Nat) (world : World) : World :=
  (fun world => world.step duration)^[steps] world

/-- The steps of a world are steps of each of its bodies alone. -/
theorem body?_stepped_of_mem {world : World} (distinct : world.members.Nodup) {handle : Handle}
    (member : handle ∈ world.members) (duration : Float32) (steps : Nat) :
    (world.stepped duration steps).body? handle =
      (world.body? handle).map (·.travel world.gravity (.replicate steps duration)) := by
  induction steps generalizing world with
  | zero => simp [stepped, Body.travel_nil]
  | succ steps ih =>
      have first := body?_step_of_mem duration distinct member
      have later := @ih (world.step duration) distinct member
      rw [stepped, Function.iterate_succ_apply]
      refine later.trans ?_
      rw [first, Option.map_map]
      refine Option.map_congr fun body _ => ?_
      have single : body.advance world.acceleration duration =
          body.travel world.gravity [duration] := body.advance_eq_travel world.gravity duration
      rw [Function.comp_apply, single]
      exact (body.travel_append _ _ _).symm

end World

namespace Stage

/-- What a number of beats makes of a running stage. -/
structure Advances (before : Stage) (steps : Nat) (after : Stage) : Prop where
  phase_eq : after.simulation.phase = .running
  settings_eq : after.settings = before.settings
  bindings_eq : after.playfield.bindings = before.playfield.bindings
  world_eq : after.simulation.world =
    before.simulation.world.stepped before.settings.timeStep steps

variable {stage : Stage}

theorem Coherent.advances_after (coherent : stage.Coherent)
    (running : stage.simulation.phase = .running) : Advances stage 1 (stage.after .tick) := by
  have live : stage.isDisposed = false := by simp [isDisposed, Simulation.isDisposed, running]
  rw [after_of_live live]
  refine ⟨?_, rfl, rfl, ?_⟩
  · exact (Simulation.phase_ticked _ _).trans running
  · exact (coherent.simulation.world_ticked _).trans (if_pos running)

/-- Every beat of a running stage is a step of its world. -/
theorem Coherent.advances_run (coherent : stage.Coherent)
    (running : stage.simulation.phase = .running) (steps : Nat) :
    Advances stage steps (stage.run (.replicate steps .tick)) := by
  induction steps generalizing stage with
  | zero => exact ⟨running, rfl, rfl, rfl⟩
  | succ steps ih =>
      have first := coherent.advances_after running
      have later := ih (coherent.after .tick) first.phase_eq
      refine ⟨later.phase_eq, later.settings_eq.trans first.settings_eq,
        later.bindings_eq.trans first.bindings_eq, later.world_eq.trans ?_⟩
      rw [first.settings_eq, first.world_eq]
      rfl

/-- A name stands for its body, which has taken the steps by itself. -/
theorem Advances.named?_eq {after : Stage} {steps : Nat} (advances : Advances stage steps after)
    (distinct : stage.simulation.world.members.Nodup)
    (bound : ∀ name handle, stage.playfield.bindings.find? name = some handle →
      handle ∈ stage.simulation.world.members) (name : String) :
    after.playfield.named? name = (stage.playfield.named? name).map
      (·.travel stage.simulation.world.gravity (.replicate steps stage.settings.timeStep)) := by
  have world : after.playfield.simulation.world = _ := advances.world_eq
  rw [Playfield.named?, Playfield.named?, advances.bindings_eq, world]
  cases found : stage.playfield.bindings.find? name with
  | none => rfl
  | some handle =>
      exact World.body?_stepped_of_mem distinct (bound name handle found) _ steps

end Stage

end PhysicsScene
