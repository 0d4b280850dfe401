import Mathlib.Data.List.Induction
import PhysicsScene.Proofs.Loading.Numbering
import PhysicsScene.Proofs.Scene.Plain
import PhysicsScene.Proofs.Stage.Outcome

/-!
# The names of a scene

The bodies of a playfield that have names are listed in the order of the names, each name once, and
the list holds what the names stand for. When a new stage loads a scene whose shapes are plain, a
name stands for the body of the last valid entry that has it (`Stage.named?_loaded_iff`), and every
body with a name is in the world.
-/

namespace PhysicsScene

/-- Every name of a list stands last at one place. -/
theorem exists_lastAt_iff (names : List (Option String)) (name : String) :
    (∃ index, LastAt names name index) ↔ some name ∈ names := by
  induction names using List.reverseRecOn with
  | nil => simp [LastAt]
  | append_singleton names last ih =>
      by_cases isName : last = some name
      · subst isName
        simp [lastAt_concat_self]
      · simp [lastAt_concat_of_ne names isName, ih, Ne.symm isName]

namespace Dictionary

variable {α : Type}

/-- The entries of a dictionary are what it answers. -/
theorem mem_entries_iff (dictionary : Dictionary α) (key : String) (value : α) :
    (key, value) ∈ dictionary.entries ↔ dictionary.find? key = some value := by
  rcases dictionary with ⟨entries, ordered⟩
  rw [find?]
  induction entries with
  | nil => simp
  | cons head rest ih =>
      rcases head with ⟨other, kept⟩
      rcases List.pairwise_cons.1 ordered with ⟨below, restOrdered⟩
      rw [lookup_cons_ite, List.mem_cons]
      split
      · next same =>
        subst same
        have notInRest : (key, value) ∉ rest := fun inRest =>
          String.lt_irrefl key (below _ inRest)
        simp [notInRest, eq_comm]
      · next different => simpa [different] using ih restOrdered

end Dictionary

namespace Playfield

variable (playfield : Playfield)

theorem mem_namedBodies_iff (name : String) (body : Body) :
    (name, body) ∈ playfield.namedBodies ↔ playfield.named? name = some body := by
  rw [namedBodies, named?, List.mem_filterMap, Option.bind_eq_some_iff]
  constructor
  · rintro ⟨⟨key, handle⟩, bound, found⟩
    rcases Option.map_eq_some_iff.1 found with ⟨_, isBody, same⟩
    cases same
    exact ⟨handle, (playfield.bindings.mem_entries_iff _ _).1 bound, isBody⟩
  · rintro ⟨handle, bound, isBody⟩
    refine ⟨(name, handle), (playfield.bindings.mem_entries_iff _ _).2 bound, ?_⟩
    simp [isBody]

/-- The named bodies are listed in the order of their names, each name once. -/
theorem ordered_namedBodies :
    playfield.namedBodies.Pairwise fun first second => first.1 < second.1 := by
  refine List.Pairwise.filterMap _ ?_ playfield.bindings.ordered
  rintro ⟨first, firstHandle⟩ ⟨second, secondHandle⟩ below entry isEntry other isOther
  rcases Option.map_eq_some_iff.1 isEntry with ⟨_, -, rfl⟩
  rcases Option.map_eq_some_iff.1 isOther with ⟨_, -, rfl⟩
  exact below

theorem length_namedBodies {playfield : Playfield}
    (known : ∀ name handle, playfield.bindings.find? name = some handle →
      (playfield.named? name).isSome = true) :
    playfield.namedBodies.length = playfield.bindings.size := by
  rw [namedBodies, Dictionary.size, List.filterMap_length_eq_length]
  rintro ⟨name, handle⟩ member
  have bound := (playfield.bindings.mem_entries_iff name handle).1 member
  have found := known name handle bound
  rw [named?, bound, Option.bind_some] at found
  rwa [Option.isSome_map]

end Playfield

namespace Scene

/-- What the valid entries of a scene ask for; a scene without a list has none. -/
def valids (scene : Scene) : List SceneEntry.Valid :=
  SceneEntry.validsOf (scene.bodies.getD [])

/-- The body that a valid entry asks for, built with the shapes of the scene and the built-in
ones. -/
def formOf (scene : Scene) (valid : SceneEntry.Valid) : Body :=
  Casting.formOf (Registry.standard.resolve scene.overrides) valid

variable {scene : Scene}

theorem valids_of_some {entries : List SceneEntry} (listed : scene.bodies = some entries) :
    scene.valids = SceneEntry.validsOf entries := by
  rw [Scene.valids, listed, Option.getD_some]

end Scene

namespace Stage

variable {settings : Settings} {scene : Scene} (plain : scene.IsPlain)

theorem bindings_loaded_new (settings : Settings) (unlisted : scene.bodies = none) :
    ((new settings).loaded scene).playfield.bindings = .empty :=
  bindings_loaded_of_none _ unlisted

include plain

theorem castsPlain_new : (new settings).playfield.CastsPlain scene :=
  Registry.isPlain_resolve (Registry.isPlain_resolve_none Registry.arePlain_standard) plain

/-- After a load a name stands for the body of the last valid entry that has it. -/
theorem named?_loaded_iff (name : String) (body : Body) :
    ((new settings).loaded scene).playfield.named? name = some body ↔
      ∃ index valid, LastAt (scene.valids.map (·.plan.name)) name index ∧
        scene.valids[index]? = some valid ∧
          body = (scene.formOf valid).withId (1 + UInt64.ofNat index) := by
  rw [Playfield.named?]
  cases listed : scene.bodies with
  | none =>
      have nothing : scene.valids = [] := by
        rw [Scene.valids, listed]
        rfl
      simp [bindings_loaded_new settings listed, nothing]
  | some entries =>
      have casts : (new settings).playfield.CastsPlain scene := castsPlain_new plain
      have behind : ∀ index, ((new settings).loaded scene).playfield.simulation.world.body?
          ((new settings).playfield.builtHandle index) =
            scene.valids[index]?.map fun valid =>
              (scene.formOf valid).withId (1 + UInt64.ofNat index) := by
        intro index
        refine (Playfield.body?_loaded listed index).trans ?_
        rw [Playfield.built_of_plain casts, Playfield.numbered, Casting.getElem?_number,
          Playfield.forms, List.getElem?_map, Option.map_map, Scene.valids_of_some listed]
        rfl
      rw [Option.bind_eq_some_iff]
      constructor
      · rintro ⟨handle, bound, isBody⟩
        rcases (Playfield.loaded_bindings_iff _ listed name handle).1 bound with
          ⟨index, rfl, last⟩
        rw [behind, Option.map_eq_some_iff] at isBody
        rcases isBody with ⟨valid, here, rfl⟩
        exact ⟨index, valid, Scene.valids_of_some listed ▸ last, here, rfl⟩
      · rintro ⟨index, valid, last, here, rfl⟩
        refine ⟨(new settings).playfield.builtHandle index, ?_, ?_⟩
        · rw [Scene.valids_of_some listed] at last
          exact (Playfield.loaded_bindings_iff _ listed name _).2 ⟨index, rfl, last⟩
        · rw [behind, here, Option.map_some]

theorem isSome_named?_loaded {name : String} {handle : Handle}
    (bound : ((new settings).loaded scene).playfield.bindings.find? name = some handle) :
    (((new settings).loaded scene).playfield.named? name).isSome = true := by
  cases listed : scene.bodies with
  | none =>
      rw [bindings_loaded_new settings listed] at bound
      cases bound
  | some entries =>
      rcases (Playfield.loaded_bindings_iff _ listed name handle).1 bound with ⟨index, -, last⟩
      have inside := last.lt_length
      rw [← Scene.valids_of_some listed] at last inside
      have here : scene.valids[index]? = some scene.valids[index] :=
        List.getElem?_eq_getElem inside
      rw [(named?_loaded_iff plain name _).2 ⟨index, _, last, here, rfl⟩]
      rfl

variable (settings) in
/-- The world of a load moves each body once, and every body that has a name. -/
theorem nodup_members_loaded :
    ((new settings).loaded scene).simulation.world.members.Nodup ∧
      ∀ name handle,
        ((new settings).loaded scene).playfield.bindings.find? name = some handle →
          handle ∈ ((new settings).loaded scene).simulation.world.members := by
  have casts : (new settings).playfield.CastsPlain scene := castsPlain_new plain
  cases listed : scene.bodies with
  | none =>
      constructor
      · rw [simulation_loaded_of_none _ listed]
        cases scene.world <;> exact List.nodup_nil
      · intro name handle bound
        rw [bindings_loaded_new settings listed] at bound
        cases bound
  | some entries =>
      constructor
      · exact Playfield.nodup_loaded_members_of_plain casts listed
      · intro name handle bound
        exact Playfield.mem_loaded_members_of_plain casts listed bound

end Stage

end PhysicsScene
