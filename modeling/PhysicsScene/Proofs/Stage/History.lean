import Mathlib.Data.List.Forall2
import PhysicsScene.Proofs.Loading.Numbering
import PhysicsScene.Proofs.Scene.Plain
import PhysicsScene.Proofs.Stage.Frame

/-!
# Loads do not depend on history

A load of a list of bodies reads little of what it finds: the registry, the next identity, and the
camera if the scene does not say what to show. Two stages that differ in whatever else, and whose
registries build alike, are therefore alike after it. Their bodies differ by one offset of their
identities, and their names go to the same places of the world. The overrides of a scene are never
written into the registry, so a later scene cannot see them.
-/

namespace PhysicsScene

namespace Registry

/-- For every name the registries have factories that build alike. -/
def Alike (first second : Registry) : Prop :=
  ∀ name, (first.resolve none name).build = (second.resolve none name).build

/-- A scene that covers some names with overrides of its own does not tell them apart. -/
theorem Alike.build_resolve {first second : Registry} (alike : first.Alike second)
    (overrides : Option Overrides) (name : String) :
    (first.resolve overrides name).build = (second.resolve overrides name).build := by
  rw [first.resolve_eq, second.resolve_eq]
  cases overrides.bind (·.find? name) with
  | none => exact alike name
  | some factory => rfl

end Registry

namespace Body

/-- The bodies differ by nothing but an offset of their identities. -/
structure Shifted (offset : Int) (body other : Body) : Prop where
  geometry_eq : other.geometry = body.geometry
  position_eq : other.position = body.position
  velocity_eq : other.velocity = body.velocity
  properties_eq : other.properties = body.properties
  id_eq : ∃ number otherNumber : UInt64, body.id = some ⟨number⟩ ∧
    other.id = some ⟨otherNumber⟩ ∧ (otherNumber.toNat : Int) = number.toNat + offset

end Body

namespace Casting

theorem toNat_add_ofNat {first : UInt64} {index : Nat} (room : first.toNat + index < 2 ^ 64) :
    (first + UInt64.ofNat index).toNat = first.toNat + index := by
  rw [UInt64.toNat_add, UInt64.toNat_ofNat']
  omega

/-- The same forms under two numberings. -/
theorem forall₂_number {first second : UInt64} {forms : List Body}
    (room : first.toNat + forms.length ≤ 2 ^ 64)
    (otherRoom : second.toNat + forms.length ≤ 2 ^ 64) :
    List.Forall₂ (Body.Shifted (second.toNat - first.toNat)) (number first forms)
      (number second forms) := by
  rw [List.forall₂_iff_get]
  refine ⟨by simp, ?_⟩
  intro index inside otherInside
  rw [length_number] at inside
  simp only [number, List.get_eq_getElem, List.getElem_mapIdx]
  refine ⟨rfl, rfl, rfl, rfl, _, _, rfl, rfl, ?_⟩
  rw [toNat_add_ofNat (by omega), toNat_add_ofNat (by omega)]
  omega

end Casting

namespace Playfield

/-- The playfields hold the same bodies under the same names, up to an offset of identities. -/
structure Resembles (offset : Int) (first second : Playfield) : Prop where
  bodies : List.Forall₂ (Body.Shifted offset) first.simulation.world.memberBodies
    second.simulation.world.memberBodies
  population_eq : second.simulation.world.population = first.simulation.world.population
  /-- Every name is free in both, or is bound to the same place of both worlds. -/
  named : ∀ name,
    (first.bindings.find? name = none ∧ second.bindings.find? name = none) ∨
      ∃ (index : Nat) (handle otherHandle : Handle),
        first.bindings.find? name = some handle ∧
        second.bindings.find? name = some otherHandle ∧
        first.simulation.world.members[index]? = some handle ∧
        second.simulation.world.members[index]? = some otherHandle
  /-- No handle has two places. -/
  distinct : first.simulation.world.members.Nodup ∧ second.simulation.world.members.Nodup

section Loaded

variable {first second : Playfield} {scene : Scene} {entries : List SceneEntry}

theorem forms_eq_of_alike (alike : first.registry.Alike second.registry) :
    second.forms scene entries = first.forms scene entries := by
  refine List.map_congr_left fun valid _ => ?_
  rw [Casting.formOf, Casting.formOf, Factory.form, Factory.form, alike.build_resolve]

/-- Both loads bind the same names, each to the body of the same entry. -/
theorem find?_bindings_loaded (first second : Playfield) (listed : scene.bodies = some entries)
    (name : String) :
    (second.loaded scene).bindings.find? name =
      ((first.loaded scene).bindings.find? name).map fun handle =>
        second.builtHandle (handle.index - first.simulation.world.bodies.size) := by
  cases found : (first.loaded scene).bindings.find? name with
  | some handle =>
      rcases (first.loaded_bindings_iff listed name handle).1 found with ⟨index, rfl, last⟩
      refine (second.loaded_bindings_iff listed name _).2 ⟨index, ?_, last⟩
      simp only [builtHandle, Nat.add_sub_cancel_left]
  | none =>
      cases there : (second.loaded scene).bindings.find? name with
      | none => rfl
      | some handle =>
          rcases (second.loaded_bindings_iff listed name handle).1 there with ⟨index, _, last⟩
          -- An entry with this name makes both loads bind it.
          have here := (first.loaded_bindings_iff listed name _).2 ⟨index, rfl, last⟩
          rw [found] at here
          cases here

theorem size_bindings_loaded (first second : Playfield) (listed : scene.bodies = some entries) :
    (second.loaded scene).bindings.size = (first.loaded scene).bindings.size := by
  rw [← Dictionary.size_filterMap_some (first.loaded scene).bindings fun handle =>
    second.builtHandle (handle.index - first.simulation.world.bodies.size)]
  refine congrArg Dictionary.size (Dictionary.ext_find? fun name => ?_)
  rw [Dictionary.find?_filterMap, first.find?_bindings_loaded second listed, Option.map_eq_bind]
  rfl

variable (plain : first.CastsPlain scene) (otherPlain : second.CastsPlain scene)
  (listed : scene.bodies = some entries)

include plain otherPlain listed

/-- The report counts entries and names, so nothing but the camera can be different. -/
theorem summary_eq_of_plain :
    { second.summary scene with camera := none } =
      { first.summary scene with camera := none } := by
  rw [summary_of_plain plain listed, summary_of_plain otherPlain listed,
    first.size_bindings_loaded second listed]

theorem resembles_loaded (alike : first.registry.Alike second.registry)
    (room : first.simulation.world.nextId.toNat + (SceneEntry.validsOf entries).length ≤ 2 ^ 64)
    (otherRoom :
      second.simulation.world.nextId.toNat + (SceneEntry.validsOf entries).length ≤ 2 ^ 64) :
    Resembles (second.simulation.world.nextId.toNat - first.simulation.world.nextId.toNat)
      (first.loaded scene) (second.loaded scene) := by
  have members := loaded_members_of_plain plain listed
  have otherMembers := loaded_members_of_plain otherPlain listed
  refine ⟨?_, ?_, ?_, ?_, ?_⟩
  · rw [loaded_memberBodies_of_plain plain listed, loaded_memberBodies_of_plain otherPlain listed,
      numbered, numbered, forms_eq_of_alike alike]
    apply Casting.forall₂_number
    · rwa [length_forms]
    · rwa [length_forms]
  · rw [World.population, World.population, members, otherMembers]
    simp
  · intro name
    have other := first.find?_bindings_loaded second listed name
    cases found : (first.loaded scene).bindings.find? name with
    | none =>
        rw [found] at other
        exact .inl ⟨rfl, other⟩
    | some handle =>
        rcases (first.loaded_bindings_iff listed name handle).1 found with ⟨index, isBuilt, last⟩
        have inside := last.lt_length
        have there := (second.loaded_bindings_iff listed name _).2 ⟨index, rfl, last⟩
        refine .inr ⟨index, handle, second.builtHandle index, rfl, there, ?_, ?_⟩
        · rw [isBuilt]
          exact getElem?_loaded_members_of_plain plain listed inside
        · exact getElem?_loaded_members_of_plain otherPlain listed inside
  · exact nodup_loaded_members_of_plain plain listed
  · exact nodup_loaded_members_of_plain otherPlain listed

end Loaded

end Playfield

namespace Stage

/-- A live stage of built-in shapes and templates that has identities left for a scene. -/
structure Receives (stage : Stage) (entries : List SceneEntry) : Prop where
  live : stage.isDisposed = false
  plain : ∀ name, (stage.playfield.registry.resolve none name).IsPlain
  room : stage.simulation.world.nextId.toNat + (SceneEntry.validsOf entries).length ≤ 2 ^ 64

/-- What two stages have in common after operations that bring the same scene. -/
structure Converge (first second : Stage) (operation otherOperation : Operation) (scene : Scene) :
    Prop where
  /-- Apart from the camera the reports are equal. -/
  reports : ∃ report otherReport : LoadSummary,
    first.report? operation = some report ∧ second.report? otherOperation = some otherReport ∧
      { otherReport with camera := none } = { report with camera := none } ∧
      (scene.world.isSome = true → otherReport.camera = report.camera)
  /-- A scene with a world decides what the cameras show. -/
  cameras : scene.world.isSome = true →
    (second.after otherOperation).simulation.surface.camera =
      (first.after operation).simulation.surface.camera
  phases : (first.after operation).simulation.phase = .ready ∧
    (second.after otherOperation).simulation.phase = .ready
  resembles : ∃ offset : Int,
    Playfield.Resembles offset (first.after operation).playfield
      (second.after otherOperation).playfield

theorem Receives.castsPlain {stage : Stage} {entries : List SceneEntry}
    (receives : stage.Receives entries) {scene : Scene} (plain : scene.IsPlain) :
    stage.playfield.CastsPlain scene :=
  Registry.isPlain_resolve receives.plain plain

theorem Receives.report?_eq {stage : Stage} {entries : List SceneEntry}
    (receives : stage.Receives entries) {operation : Operation} {scene : Scene}
    (brings : operation.scene? = some scene) :
    stage.report? operation = some (stage.playfield.summary scene) := by
  rw [Stage.report?_eq, receives.live, brings]
  rfl

section Receives

variable {first second : Stage} {scene : Scene} {entries : List SceneEntry}
  {operation otherOperation : Operation} (listed : scene.bodies = some entries)
  (plain : scene.IsPlain) (brings : operation.scene? = some scene)
  (otherBrings : otherOperation.scene? = some scene) (receives : first.Receives entries)
  (otherReceives : second.Receives entries)

include listed plain brings otherBrings receives otherReceives

theorem converge_reports :
    ∃ report otherReport : LoadSummary,
      first.report? operation = some report ∧ second.report? otherOperation = some otherReport ∧
        { otherReport with camera := none } = { report with camera := none } ∧
        (scene.world.isSome = true → otherReport.camera = report.camera) := by
  have casts := receives.castsPlain plain
  have otherCasts := otherReceives.castsPlain plain
  refine ⟨_, _, receives.report?_eq brings, otherReceives.report?_eq otherBrings, ?_, ?_⟩
  · exact Playfield.summary_eq_of_plain casts otherCasts listed
  · intro framed
    rcases Option.isSome_iff_exists.1 framed with ⟨extent, world⟩
    rw [Playfield.summary_of_plain casts listed, Playfield.summary_of_plain otherCasts listed,
      world]
    rfl

theorem converge_of_alike
    (alike : first.playfield.registry.Alike second.playfield.registry) :
    Converge first second operation otherOperation scene := by
  have after := after_of_scene? receives.live brings
  have otherAfter := after_of_scene? otherReceives.live otherBrings
  refine ⟨converge_reports listed plain brings otherBrings receives otherReceives, ?_, ?_, ?_⟩
  · intro framed
    have surface : (first.loaded scene).simulation.surface = _ := Playfield.loaded_surface listed
    have otherSurface : (second.loaded scene).simulation.surface = _ :=
      Playfield.loaded_surface listed
    rcases Option.isSome_iff_exists.1 framed with ⟨extent, world⟩
    rw [after, otherAfter, surface, otherSurface, world]
    rfl
  · rcases first.simulation_loaded_of_some listed with ⟨_, ready⟩
    rcases second.simulation_loaded_of_some listed with ⟨_, otherReady⟩
    rw [after, otherAfter, ready, otherReady]
    exact ⟨rfl, rfl⟩
  · rw [after, otherAfter]
    exact ⟨_, Playfield.resembles_loaded (receives.castsPlain plain)
      (otherReceives.castsPlain plain) listed alike receives.room otherReceives.room⟩

end Receives

/-- A load leaves the registry as it was, whatever the scene brings. -/
theorem registry_after_of_scene? (stage : Stage) {operation : Operation} {scene : Scene}
    (brings : operation.scene? = some scene) :
    (stage.after operation).playfield.registry = stage.playfield.registry := by
  cases life : stage.isDisposed with
  | false => rw [after_of_scene? life brings, registry_loaded]
  | true =>
      rw [after_of_disposed life, (keeps_disposedAfter life operation).registry_eq,
        Operation.registers_of_scene? brings]

/-- Whatever two stages went through, they agree on a scene that both receive; and no load ever
changes what a name stands for outside its scene. -/
theorem loads_converge :
    (∀ {first second : Stage} {scene : Scene} {entries : List SceneEntry}
      {operation otherOperation : Operation}, scene.bodies = some entries → scene.IsPlain →
      operation.scene? = some scene → otherOperation.scene? = some scene →
      first.Receives entries → second.Receives entries →
      first.playfield.registry.Alike second.playfield.registry →
      Converge first second operation otherOperation scene) ∧
    ∀ (stage : Stage) {operation : Operation} {scene : Scene}, operation.scene? = some scene →
      ∀ name, (stage.after operation).playfield.registry.resolve none name =
        stage.playfield.registry.resolve none name := by
  refine ⟨converge_of_alike, ?_⟩
  intro stage operation scene brings name
  rw [stage.registry_after_of_scene? brings]

/-- A used stage forgets the names, bodies and shapes of an earlier scene. -/
theorem loads_converge_used :
    let entry (shape name : String) : SceneEntry :=
      .plan
        { shape := some shape, position := some ⟨1, 2⟩, name := some name, options := .none }
    let box : Factory := .template (.new .rectangle .none)
    let earlier := { Scene.empty with
      bodies := some [entry "circle" "a", entry "crate" "c"]
      overrides := some ((Dictionary.empty.insert "circle" box).insert "crate" box) }
    let scene := { Scene.empty with
      world := some ⟨some 10, none⟩
      bodies := some [entry "circle" "b", .malformed .null, entry "crate" "a"] }
    let used := (new .default).run [.load earlier, .start, .tick, .pause]
    Converge (new .default) used (.load scene) (.arrive (.ok scene)) scene ∧
      used.simulation.world.nextId = 3 ∧
      (used.after (.arrive (.ok scene))).simulation.world.memberBodies.map Body.geometry =
        [.circle 25, .circle 25] ∧
      (used.after (.arrive (.ok scene))).playfield.bindings.keys = ["a", "b"] := by
  intro entry box earlier scene used
  have registry : used.playfield.registry = .standard :=
    (coherent_new .default).registry_run _
  have standard : ∀ name, (Registry.standard.resolve none name).IsPlain :=
    Registry.isPlain_resolve_none Registry.arePlain_standard
  refine ⟨loads_converge.1 rfl ?_ rfl rfl ⟨rfl, standard, ?_⟩ ⟨?_, ?_, ?_⟩ ?_, ?_, ?_, ?_⟩
  · exact Scene.isPlain_empty
  · decide +kernel
  · decide +kernel
  · rw [registry]
    exact standard
  · decide +kernel
  · rw [registry]
    exact fun _ => rfl
  · decide +kernel
  · decide +kernel
  · decide +kernel

end Stage

end PhysicsScene
