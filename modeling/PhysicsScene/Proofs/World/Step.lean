import Mathlib.Data.List.Basic
import PhysicsScene.World

/-!
# Steps of a world

A step goes over the handles of the world and changes the body behind each in place. What an
advance keeps of a body, a step therefore keeps behind every handle, even if a handle were to occur
twice. If no handle does, a step advances every body of the world exactly once and no other body.
-/

namespace PhysicsScene

namespace Body

variable (body : Body) (acceleration : Vector2) (duration : Float32)

theorem id_advance : (body.advance acceleration duration).id = body.id := by
  rw [advance]
  split <;> rfl

end Body

namespace World

theorem size_foldl_modify (change : Body → Body) (handles : List Handle) (bodies : Array Body) :
    (handles.foldl (fun bodies handle => bodies.modify handle.index change) bodies).size =
      bodies.size := by
  induction handles generalizing bodies with
  | nil => rfl
  | cons handle rest ih =>
      rw [List.foldl_cons, ih]
      exact Array.size_modify

/-- A view of bodies that a change keeps is kept behind every handle. -/
theorem map_getElem?_foldl_modify {β : Type} {view : Body → β} {change : Body → Body}
    (kept : ∀ body, view (change body) = view body) (handles : List Handle)
    (bodies : Array Body) (index : Nat) :
    (handles.foldl (fun bodies handle => bodies.modify handle.index change) bodies)[index]?.map
        view = bodies[index]?.map view := by
  induction handles generalizing bodies with
  | nil => rfl
  | cons handle rest ih =>
      rw [List.foldl_cons, ih, Array.getElem?_modify]
      split
      · cases bodies[index]? with
        | none => rfl
        | some body => exact congrArg some (kept body)
      · rfl

/-- Changing the bodies behind distinct handles changes each of them once. -/
theorem getElem?_foldl_modify (change : Body → Body) {handles : List Handle}
    (distinct : handles.Nodup) (bodies : Array Body) (handle : Handle) :
    (handles.foldl (fun bodies handle => bodies.modify handle.index change)
        bodies)[handle.index]? =
      if handle ∈ handles then bodies[handle.index]?.map change else bodies[handle.index]? := by
  induction handles generalizing bodies with
  | nil => rfl
  | cons first rest ih =>
      rcases List.nodup_cons.1 distinct with ⟨notInRest, restDistinct⟩
      rw [List.foldl_cons, ih restDistinct, Array.getElem?_modify]
      -- The first handle does not come again, so what it changes stays changed once.
      by_cases same : handle = first
      · subst same
        simp [notInRest]
      · have otherIndex : first.index ≠ handle.index := by
          intro sameIndex
          apply same
          cases handle
          cases first
          cases sameIndex
          rfl
        simp [same, otherIndex]

variable (world : World) (duration : Float32)

theorem size_bodies_step : (world.step duration).bodies.size = world.bodies.size :=
  size_foldl_modify _ world.members world.bodies

theorem map_body?_step {β : Type} (view : Body → β)
    (kept : ∀ body acceleration duration, view (body.advance acceleration duration) = view body)
    (handle : Handle) :
    ((world.step duration).body? handle).map view = (world.body? handle).map view :=
  map_getElem?_foldl_modify (fun body => kept body world.acceleration duration) world.members
    world.bodies handle.index

/-- A step advances a body of the world once. -/
theorem body?_step_of_mem {world : World} (distinct : world.members.Nodup) {handle : Handle}
    (member : handle ∈ world.members) :
    (world.step duration).body? handle =
      (world.body? handle).map (·.advance world.acceleration duration) := by
  refine (getElem?_foldl_modify _ distinct world.bodies handle).trans ?_
  rw [if_pos member]
  rfl

/-- A step advances the bodies of the world and keeps their order. -/
theorem memberBodies_step {world : World} (distinct : world.members.Nodup) :
    (world.step duration).memberBodies =
      world.memberBodies.map (·.advance world.acceleration duration) := by
  have behind : ∀ handle ∈ world.members, (world.step duration).body? handle =
      (world.body? handle).map (·.advance world.acceleration duration) :=
    fun handle member => body?_step_of_mem duration distinct member
  calc
    (world.step duration).memberBodies =
        world.members.filterMap fun handle =>
          (world.body? handle).map (·.advance world.acceleration duration) :=
      List.filterMap_congr behind
    _ = world.memberBodies.map (·.advance world.acceleration duration) := by
      rw [memberBodies, List.map_filterMap]

end World

end PhysicsScene
