import Mathlib.Algebra.Group.Nat.Defs
import PhysicsScene.Proofs.World.Step

/-!
# Numbered worlds

In a numbered world the place of a body among all bodies that were ever made tells its identity:
the body behind handle `n` has the identity `n + 1`, and the next identity is one more than the
number of bodies. Handles enter the world in increasing order, so as long as there are identities
left, nothing in the world is missing one, none occurs twice, and the order of the world is the
order of the identities.
-/

namespace PhysicsScene

namespace Identity

/-- The identity of a number. -/
def ofNat (number : Nat) : Identity := ⟨UInt64.ofNat number⟩

theorem toNat_number_ofNat {number : Nat} (small : number < 2 ^ 64) :
    (ofNat number).number.toNat = number := by
  rw [ofNat, UInt64.toNat_ofNat']
  exact Nat.mod_eq_of_lt small

theorem number_ofNat_lt {first second : Nat} (below : first < second)
    (small : second < 2 ^ 64) : (ofNat first).number < (ofNat second).number := by
  rw [UInt64.lt_iff_toNat_lt, toNat_number_ofNat small,
    toNat_number_ofNat (Nat.lt_trans below small)]
  exact below

end Identity

namespace World

/-- The identity of a body is one more than its place. -/
structure Numbered (world : World) : Prop where
  nextId_eq : world.nextId = (Identity.ofNat (world.bodies.size + 1)).number
  id_eq : ∀ handle body, world.body? handle = some body →
    body.id = some (.ofNat (handle.index + 1))
  ordered : world.members.Pairwise (·.index < ·.index)
  /-- Behind every handle of the world is a body. -/
  kept : ∀ handle ∈ world.members, handle.index < world.bodies.size

theorem numbered_new (gravity : Vector2) : (new gravity).Numbered := by
  refine ⟨rfl, ?_, .nil, ?_⟩
  · intro handle body found
    cases found
  · intro handle member
    cases member

section Numbered

variable {world : World}

theorem Numbered.clear (numbered : world.Numbered) : world.clear.Numbered := by
  refine ⟨numbered.nextId_eq, numbered.id_eq, .nil, ?_⟩
  intro handle member
  cases member

theorem Numbered.step (numbered : world.Numbered) (duration : Float32) :
    (world.step duration).Numbered := by
  have size := world.size_bodies_step duration
  refine ⟨?_, ?_, numbered.ordered, ?_⟩
  · rw [size]
    exact numbered.nextId_eq
  · intro handle body found
    have same := world.map_body?_step duration Body.id Body.id_advance handle
    rw [found] at same
    rcases Option.map_eq_some_iff.1 same.symm with ⟨earlier, before, sameId⟩
    rw [← sameId]
    exact numbered.id_eq handle earlier before
  · intro handle member
    rw [size]
    exact numbered.kept handle member

theorem Numbered.distinct (numbered : world.Numbered) : world.members.Nodup := by
  refine List.Pairwise.imp ?_ numbered.ordered
  intro first second below same
  rw [same] at below
  exact Nat.lt_irrefl _ below

theorem Numbered.body?_of_mem (numbered : world.Numbered) {handle : Handle}
    (member : handle ∈ world.members) : ∃ body, world.body? handle = some body :=
  ⟨_, Array.getElem?_eq_getElem (numbered.kept handle member)⟩

theorem map_some_filterMap {α β : Type} {f : α → Option β} {list : List α}
    (found : ∀ value ∈ list, (f value).isSome = true) :
    (list.filterMap f).map some = list.map f := by
  induction list with
  | nil => rfl
  | cons head rest ih =>
      rcases Option.isSome_iff_exists.1 (found head List.mem_cons_self) with ⟨value, isValue⟩
      rw [List.filterMap_cons_some isValue, List.map_cons, List.map_cons, isValue,
        ih fun other member => found other (List.mem_cons_of_mem _ member)]

/-- The bodies of the world stand where their handles stand. -/
theorem Numbered.map_some_memberBodies (numbered : world.Numbered) :
    world.memberBodies.map some = world.members.map world.body? := by
  apply map_some_filterMap
  intro handle member
  exact Option.isSome_iff_exists.2 (numbered.body?_of_mem member)

theorem Numbered.length_memberBodies (numbered : world.Numbered) :
    world.memberBodies.length = world.members.length := by
  simpa using congrArg List.length numbered.map_some_memberBodies

theorem Numbered.getElem?_memberBodies (numbered : world.Numbered) (index : Nat) :
    world.memberBodies[index]? = world.members[index]?.bind world.body? := by
  have there := congrArg (·[index]?) numbered.map_some_memberBodies
  simp only [List.getElem?_map] at there
  cases handle : world.members[index]? with
  | none => simpa [handle] using there
  | some handle =>
      rw [handle] at there
      rcases Option.map_eq_some_iff.1 there with ⟨body, isBody, found⟩
      rw [isBody, Option.bind_some, found]

theorem Numbered.map_id_memberBodies (numbered : world.Numbered) :
    world.memberBodies.map (·.id) =
      world.members.map fun handle => some (.ofNat (handle.index + 1)) := by
  have ids : (world.memberBodies.map some).map (·.bind Body.id) =
      world.members.map fun handle => (world.body? handle).bind Body.id := by
    rw [numbered.map_some_memberBodies, List.map_map]
    rfl
  rw [List.map_map] at ids
  refine ids.trans (List.map_congr_left ?_)
  intro handle member
  rcases numbered.body?_of_mem member with ⟨body, found⟩
  rw [found]
  exact numbered.id_eq handle body found

/-- From any place on, the identities of all bodies count up. -/
theorem Numbered.map_id_drop (numbered : world.Numbered) (first : Nat) :
    (world.bodies.toList.drop first).map (·.id) =
      (List.range' (first + 1) (world.bodies.size - first)).map fun number =>
        some (.ofNat number) := by
  apply List.ext_getElem?
  intro index
  simp only [List.getElem?_map, List.getElem?_drop, Array.getElem?_toList]
  cases found : world.bodies[first + index]? with
  | none =>
      have outside := Array.getElem?_eq_none_iff.1 found
      rw [List.getElem?_eq_none (by simp; omega)]
      rfl
  | some body =>
      have inside := (Array.getElem?_eq_some_iff.1 found).1
      have id := numbered.id_eq ⟨first + index⟩ body found
      rw [List.getElem?_range' (by omega)]
      simp [id, Nat.add_right_comm]

end Numbered

end World

end PhysicsScene
