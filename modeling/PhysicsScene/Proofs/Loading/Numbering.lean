import PhysicsScene.Proofs.Loading.Replacement
import PhysicsScene.Proofs.Shape.Plain
import PhysicsScene.Proofs.World.Numbering

/-!
# Identities of a load

When every shape resolves to a plain factory, a load is arithmetic. Each valid entry takes the next
identity and no other entry takes any, so the bodies of a load are the forms that their entries ask
for, numbered one after the other. None of them lacks an identity, so all of them reach the world,
and the world holds a contiguous range of handles.
-/

namespace PhysicsScene

theorem LastAt.lt_length {valids : List SceneEntry.Valid} {name : String} {index : Nat}
    (last : LastAt (valids.map (·.plan.name)) name index) : index < valids.length := by
  simpa using (List.getElem?_eq_some_iff.1 last.1).1

namespace Casting

/-- The body that a valid entry asks for, for any identity. -/
def formOf (factoryOf : String → Factory) (valid : SceneEntry.Valid) : Body :=
  (factoryOf valid.shape).form valid.plan.options valid.position

/-- Bodies under consecutive identities. -/
def number (first : UInt64) (forms : List Body) : List Body :=
  forms.mapIdx fun index form => form.withId (first + UInt64.ofNat index)

@[simp]
theorem length_number (first : UInt64) (forms : List Body) :
    (number first forms).length = forms.length := by
  simp [number]

theorem getElem?_number (first : UInt64) (forms : List Body) (index : Nat) :
    (number first forms)[index]? =
      forms[index]?.map (·.withId (first + UInt64.ofNat index)) := by
  simp [number, List.getElem?_mapIdx]

/-- Nothing but the identities tells the numbered bodies from the forms. -/
theorem map_number {β : Type} {view : Body → β}
    (kept : ∀ form number, view (form.withId number) = view form) (first : UInt64)
    (forms : List Body) : (number first forms).map view = forms.map view := by
  apply List.ext_getElem?
  intro index
  rw [List.getElem?_map, getElem?_number, List.getElem?_map, Option.map_map]
  exact Option.map_congr fun form _ => kept form _

theorem isSome_id_of_mem_number {first : UInt64} {forms : List Body} {body : Body}
    (member : body ∈ number first forms) : body.id.isSome = true := by
  rcases List.getElem?_of_mem member with ⟨index, here⟩
  rw [getElem?_number] at here
  rcases Option.map_eq_some_iff.1 here with ⟨form, _, rfl⟩
  rfl

section Plain

variable {factoryOf : String → Factory} (plain : ∀ name, (factoryOf name).IsPlain)

include plain

/-- Plain factories build the forms of the valid entries under consecutive identities. -/
theorem buildAll_of_plain (valids : List SceneEntry.Valid) (next : UInt64) :
    buildAll factoryOf valids next =
      (number next (valids.map (formOf factoryOf)), next + UInt64.ofNat valids.length) := by
  -- Identities are handed on from the front, so the last entry sees how many were taken.
  induction valids using List.reverseRecOn with
  | nil =>
      have nothing : buildAll factoryOf [] next = ([], next) := rfl
      rw [nothing]
      simp [number]
  | append_singleton valids valid ih =>
      have last := (plain valid.shape).build_eq valid.plan.options valid.position (-1)
        (next + UInt64.ofNat valids.length)
      simp only [buildAll_concat, ih, last, number, List.map_append, List.map_singleton,
        List.mapIdx_concat, List.length_map, List.length_append, List.length_singleton,
        UInt64.ofNat_add, ← UInt64.add_assoc]
      rfl

theorem position_formOf (valid : SceneEntry.Valid) :
    (formOf factoryOf valid).position = valid.position :=
  (plain valid.shape).form_position _ _

theorem velocity_formOf (valid : SceneEntry.Valid) :
    (formOf factoryOf valid).velocity = .zero :=
  (plain valid.shape).form_velocity _ _

end Plain

theorem identified_of_isSome (first : Nat) {bodies : List Body}
    (all : ∀ body ∈ bodies, body.id.isSome = true) :
    identified first bodies = (List.range' first bodies.length).map Handle.mk := by
  induction bodies using List.reverseRecOn with
  | nil => rfl
  | append_singleton bodies body ih =>
      have last := all body (by simp)
      have earlier := ih fun other member => all other (by simp [member])
      rw [identified_concat, if_pos last, earlier, List.length_append, List.length_singleton,
        List.range'_concat, List.map_append, List.map_singleton, Nat.one_mul]

end Casting

namespace Playfield

/-- Every shape that a scene may name is built by a plain factory. -/
def CastsPlain (playfield : Playfield) (scene : Scene) : Prop :=
  ∀ name, (playfield.registry.resolve scene.overrides name).IsPlain

/-- The bodies that a list of entries asks for, for any identities. -/
def forms (playfield : Playfield) (scene : Scene) (entries : List SceneEntry) : List Body :=
  (SceneEntry.validsOf entries).map
    (Casting.formOf (playfield.registry.resolve scene.overrides))

@[simp]
theorem length_forms (playfield : Playfield) (scene : Scene) (entries : List SceneEntry) :
    (playfield.forms scene entries).length = (SceneEntry.validsOf entries).length := by
  simp [forms]

/-- The bodies that a load makes if all factories are plain. -/
def numbered (playfield : Playfield) (scene : Scene) (entries : List SceneEntry) : List Body :=
  Casting.number playfield.simulation.world.nextId (playfield.forms scene entries)

@[simp]
theorem length_numbered (playfield : Playfield) (scene : Scene) (entries : List SceneEntry) :
    (playfield.numbered scene entries).length = (SceneEntry.validsOf entries).length := by
  simp [numbered]

/-- A load binds each name to the last body that has it. -/
theorem loaded_bindings_iff (before : Playfield) {scene : Scene} {entries : List SceneEntry}
    (listed : scene.bodies = some entries) (name : String) (handle : Handle) :
    (before.loaded scene).bindings.find? name = some handle ↔
      ∃ index, handle = before.builtHandle index ∧
        LastAt ((SceneEntry.validsOf entries).map (·.plan.name)) name index := by
  have bindings : (before.loaded scene).bindings = (before.casting scene entries).bindings := by
    simp only [loaded, listed]
  rw [bindings]
  exact (covers_casting before scene entries).bindings_iff name handle

section Loaded

variable {before : Playfield} {scene : Scene} {entries : List SceneEntry}
  (plain : before.CastsPlain scene)

include plain

theorem built_of_plain :
    before.built scene entries =
      (before.numbered scene entries,
        before.simulation.world.nextId +
          UInt64.ofNat (SceneEntry.validsOf entries).length) :=
  Casting.buildAll_of_plain plain _ _

variable (listed : scene.bodies = some entries)

include listed

theorem loaded_bodies_of_plain :
    (before.loaded scene).simulation.world.bodies =
      before.simulation.world.bodies ++ (before.numbered scene entries).toArray := by
  rw [loaded_bodies listed, built_of_plain plain]

theorem size_bodies_loaded_of_plain :
    (before.loaded scene).simulation.world.bodies.size =
      before.simulation.world.bodies.size + (SceneEntry.validsOf entries).length := by
  rw [loaded_bodies_of_plain plain listed]
  simp

theorem loaded_nextId_of_plain :
    (before.loaded scene).simulation.world.nextId =
      before.simulation.world.nextId +
        UInt64.ofNat (SceneEntry.validsOf entries).length := by
  have built : before.built scene entries = _ := built_of_plain plain
  rw [loaded_world listed]
  simp only [World.add, World.clear, (covers_casting before scene entries).world_eq]
  exact congrArg Prod.snd built

theorem loaded_members_of_plain :
    (before.loaded scene).simulation.world.members =
      (List.range' before.simulation.world.bodies.size
        (SceneEntry.validsOf entries).length).map Handle.mk := by
  have all : ∀ body ∈ before.numbered scene entries, body.id.isSome = true :=
    fun _ => Casting.isSome_id_of_mem_number
  rw [loaded_members listed, built_of_plain plain, Casting.identified_of_isSome _ all,
    length_numbered]

theorem nodup_loaded_members_of_plain :
    (before.loaded scene).simulation.world.members.Nodup := by
  rw [loaded_members_of_plain plain listed, List.Nodup, List.pairwise_map]
  refine List.Pairwise.imp ?_ List.pairwise_lt_range'
  intro first second below same
  cases same
  exact Nat.lt_irrefl _ below

theorem loaded_memberBodies_of_plain :
    (before.loaded scene).simulation.world.memberBodies = before.numbered scene entries := by
  rw [loaded_memberBodies listed, built_of_plain plain]
  exact List.filter_eq_self.2 fun _ => Casting.isSome_id_of_mem_number

theorem getElem?_loaded_members_of_plain {index : Nat}
    (inside : index < (SceneEntry.validsOf entries).length) :
    (before.loaded scene).simulation.world.members[index]? = some (before.builtHandle index) := by
  rw [loaded_members_of_plain plain listed, List.getElem?_map, List.getElem?_range' inside,
    Nat.one_mul]
  rfl

theorem mem_loaded_members_of_plain {name : String} {handle : Handle}
    (found : (before.loaded scene).bindings.find? name = some handle) :
    handle ∈ (before.loaded scene).simulation.world.members := by
  rcases (loaded_bindings_iff before listed name handle).1 found with ⟨index, rfl, last⟩
  exact List.mem_of_getElem? (getElem?_loaded_members_of_plain plain listed last.lt_length)

theorem length_batch_of_plain :
    (before.casting scene entries).batch.length = (SceneEntry.validsOf entries).length := by
  have members := loaded_members_of_plain plain listed
  rw [loaded_world listed] at members
  simpa [World.add, World.clear] using congrArg List.length members

/-- Apart from the camera, a report counts what the scene has. -/
theorem summary_of_plain :
    before.summary scene =
      { committed := (SceneEntry.validsOf entries).length
        dropped := entries.length - (SceneEntry.validsOf entries).length
        discarded := 0
        bound := (before.loaded scene).bindings.size
        diagnostics := scene.diagnosticCount
        camera := some (framed before.simulation scene.world).surface.camera
        replaced := true } := by
  have batch := length_batch_of_plain plain listed
  have covers := covers_casting before scene entries
  have dropped : (before.casting scene entries).dropped =
      entries.length - (SceneEntry.validsOf entries).length :=
    Nat.eq_sub_of_add_eq covers.dropped_add
  have discarded : (before.casting scene entries).discarded = 0 := by
    have total := covers.discarded_add
    omega
  simp only [summary, loaded, listed, batch, dropped, discarded]

theorem discarded_eq_zero_of_plain : (before.summary scene).discarded = 0 := by
  rw [summary_of_plain plain listed]

/-- A load goes on numbering where the world stands. -/
theorem numbered_loaded (numbered : before.simulation.world.Numbered) :
    (before.loaded scene).simulation.world.Numbered := by
  have bodies := loaded_bodies_of_plain plain listed
  have members := loaded_members_of_plain plain listed
  have size := size_bodies_loaded_of_plain plain listed
  refine ⟨?_, ?_, ?_, ?_⟩
  · rw [loaded_nextId_of_plain plain listed, numbered.nextId_eq, size, Identity.ofNat,
      Identity.ofNat, ← UInt64.ofNat_add, Nat.add_right_comm]
  · intro handle body found
    rw [World.body?, bodies] at found
    -- Bodies from before stay behind their handles; those of the load follow after them.
    rcases Nat.lt_or_ge handle.index before.simulation.world.bodies.size with isOld | isNew
    · rw [Array.getElem?_append_left isOld] at found
      exact numbered.id_eq handle body found
    · rw [Array.getElem?_append_right isNew, List.getElem?_toArray, Playfield.numbered,
        Casting.getElem?_number] at found
      rcases Option.map_eq_some_iff.1 found with ⟨form, _, rfl⟩
      have place : before.simulation.world.bodies.size + 1 +
          (handle.index - before.simulation.world.bodies.size) = handle.index + 1 := by
        omega
      rw [Body.withId, numbered.nextId_eq, Identity.ofNat, ← UInt64.ofNat_add, place]
      rfl
  · rw [members, List.pairwise_map]
    exact List.pairwise_lt_range'
  · intro handle member
    rw [members] at member
    rcases List.mem_map.1 member with ⟨index, inRange, rfl⟩
    rw [size]
    exact (List.mem_range'_1.1 inRange).2

end Loaded

end Playfield

end PhysicsScene
