import PhysicsScene.Proofs.Loading.Casting
import PhysicsScene.Proofs.Simulation.Transition

/-!
# What a load replaces

On a live playfield a load always succeeds, and `Playfield.loaded` is the playfield after it: every
check in its course is passed because nothing in the load ends the simulation. A scene with a list
of bodies puts its own bodies and names in the place of all earlier ones. `Playfield.Replaces` says
in full what comes of it, in terms of the bodies that the factories build one after the other.
-/

namespace PhysicsScene

namespace Playfield

/-- The simulation after the camera was pointed at a world, if there is one. -/
def framed (simulation : Simulation) (extent : Option WorldExtent) : Simulation :=
  match extent with
  | some extent => { simulation with surface := simulation.surface.lookAt (cameraOf extent) }
  | none => simulation

/-- The bodies of a list of entries, cast with the shapes of a playfield and of a scene. -/
def casting (playfield : Playfield) (scene : Scene) (entries : List SceneEntry) : Casting :=
  .ofEntries (playfield.registry.resolve scene.overrides) playfield.simulation.world entries

/-- The playfield after a load, if it was live. -/
def loaded (playfield : Playfield) (scene : Scene) : Playfield :=
  let simulation := framed playfield.simulation scene.world
  match scene.bodies with
  | none => { playfield with simulation }
  | some entries =>
      let casting := playfield.casting scene entries
      { playfield with
        bindings := casting.bindings
        simulation :=
          Simulation.readied { simulation with world := casting.world.clear.add casting.batch } }

/-- The report of a load, if the playfield was live. -/
def summary (playfield : Playfield) (scene : Scene) : LoadSummary :=
  let report : LoadSummary :=
    { committed := 0, dropped := 0, discarded := 0, bound := 0
      diagnostics := scene.diagnosticCount
      camera := some (framed playfield.simulation scene.world).surface.camera
      replaced := false }
  match scene.bodies with
  | none => report
  | some entries =>
      let casting := playfield.casting scene entries
      { report with
        committed := casting.batch.length
        dropped := casting.dropped
        discarded := casting.discarded
        bound := casting.bindings.size
        replaced := true }

@[simp]
theorem framed_runner (simulation : Simulation) (extent : Option WorldExtent) :
    (framed simulation extent).runner = simulation.runner := by
  cases extent <;> rfl

@[simp]
theorem framed_phase (simulation : Simulation) (extent : Option WorldExtent) :
    (framed simulation extent).phase = simulation.phase := by
  cases extent <;> rfl

theorem framed_frames (simulation : Simulation) (extent : Option WorldExtent) :
    (framed simulation extent).surface.frames = simulation.surface.frames := by
  cases extent <;> rfl

theorem framed_size (simulation : Simulation) (extent : Option WorldExtent) :
    (framed simulation extent).surface.size = simulation.surface.size := by
  cases extent <;> rfl

/-- A load fails exactly on a disposed playfield, and then it changes nothing. -/
theorem outcome_load (scene : Scene) (playfield : Playfield) :
    (load scene).outcome playfield =
      if playfield.simulation.isDisposed then (.error (.disposed "load"), playfield)
      else (.ok (playfield.summary scene), playfield.loaded scene) := by
  cases disposed : playfield.simulation.isDisposed with
  | true => simp [load, onSimulation, Simulation.outcome_requireLive, disposed]
  | false =>
      have live : playfield.simulation.phase ≠ .disposed := by
        simpa [Simulation.isDisposed] using disposed
      cases extent : scene.world <;> cases bodies : scene.bodies <;>
        simp [load, onSimulation, Simulation.outcome_requireLive, Simulation.outcome_liveSurface,
          Simulation.outcome_modifySurface, Simulation.outcome_liveWorld,
          Simulation.outcome_modifyWorld, Simulation.outcome_ready, Simulation.guarded,
          Simulation.isDisposed, live, extent, bodies, loaded, summary, framed, casting]

/-- The bodies that the valid entries of a list ask for, and the identity left after them. -/
def built (playfield : Playfield) (scene : Scene) (entries : List SceneEntry) :
    List Body × UInt64 :=
  Casting.buildAll (playfield.registry.resolve scene.overrides) (SceneEntry.validsOf entries)
    playfield.simulation.world.nextId

/-- The handle of the body that a load builds at a place, counted from zero. -/
def builtHandle (playfield : Playfield) (index : Nat) : Handle :=
  ⟨playfield.simulation.world.bodies.size + index⟩

/-- What a load of a scene with a list of entries reports and leaves behind. -/
structure Replaces (before : Playfield) (scene : Scene) (entries : List SceneEntry)
    (report : LoadSummary) (after : Playfield) : Prop where
  /-- A body is built for exactly the entries with a shape and a position. -/
  valid_iff : ∀ entry ∈ entries, ∀ valid, entry.valid? = some valid ↔ entry.Asks valid
  /-- The new bodies are kept behind fresh handles, and no other body changes. -/
  bodies_eq : after.simulation.world.bodies =
    before.simulation.world.bodies ++ (before.built scene entries).1.toArray
  nextId_eq : after.simulation.world.nextId = (before.built scene entries).2
  /-- The world holds the new bodies that have an identity, in the order of their entries. -/
  memberBodies_eq : after.simulation.world.memberBodies =
    (before.built scene entries).1.filter (·.id.isSome)
  members_eq : after.simulation.world.members =
    Casting.identified before.simulation.world.bodies.size (before.built scene entries).1
  members_fresh : ∀ handle ∈ after.simulation.world.members,
    before.simulation.world.body? handle = none
  /-- A name is bound exactly if a valid entry has it, and then to the body of the last one. -/
  bindings_iff : ∀ name handle, after.bindings.find? name = some handle ↔
    ∃ index, handle = before.builtHandle index ∧
      LastAt ((SceneEntry.validsOf entries).map (·.plan.name)) name index
  body?_builtHandle : ∀ index,
    after.simulation.world.body? (before.builtHandle index) =
      (before.built scene entries).1[index]?
  counted : report.committed + report.dropped + report.discarded = entries.length
  committed_eq : report.committed = after.simulation.world.population
  dropped_add : report.dropped + (SceneEntry.validsOf entries).length = entries.length
  bound_eq : report.bound = after.bindings.size
  diagnostics_eq : report.diagnostics = scene.diagnosticCount
  camera_eq : report.camera = some after.simulation.surface.camera
  replaced_eq : report.replaced = true
  /-- The simulation is ready again, at rest and with one more frame. -/
  phase_eq : after.simulation.phase = .ready
  runner_eq : after.simulation.runner =
    { before.simulation.runner with running := true, enabled := false }
  surface_eq : after.simulation.surface =
    { before.simulation.surface with
      camera := (scene.world.map cameraOf).getD before.simulation.surface.camera
      running := true
      frames := before.simulation.surface.frames + 1
      lastCount := after.simulation.world.population }
  gravity_eq : after.simulation.world.gravity = before.simulation.world.gravity
  registry_eq : after.registry = before.registry

theorem covers_casting (playfield : Playfield) (scene : Scene) (entries : List SceneEntry) :
    Casting.Covers (playfield.registry.resolve scene.overrides) playfield.simulation.world entries
      (playfield.casting scene entries) :=
  Casting.covers_ofEntries _ _ _

section Loaded

variable {before : Playfield} {scene : Scene} {entries : List SceneEntry}

theorem loaded_world (listed : scene.bodies = some entries) :
    (before.loaded scene).simulation.world =
      (before.casting scene entries).world.clear.add (before.casting scene entries).batch := by
  simp only [loaded, listed, Simulation.readied, Simulation.present, Simulation.inPhase]

theorem loaded_bodies (listed : scene.bodies = some entries) :
    (before.loaded scene).simulation.world.bodies =
      before.simulation.world.bodies ++ (before.built scene entries).1.toArray := by
  rw [loaded_world listed]
  simp only [World.add, World.clear, (covers_casting before scene entries).world_eq, built]

theorem loaded_members (listed : scene.bodies = some entries) :
    (before.loaded scene).simulation.world.members =
      Casting.identified before.simulation.world.bodies.size (before.built scene entries).1 := by
  rw [loaded_world listed]
  simp only [World.add, World.clear, List.nil_append, built,
    (covers_casting before scene entries).batch_eq]

theorem loaded_memberBodies (listed : scene.bodies = some entries) :
    (before.loaded scene).simulation.world.memberBodies =
      (before.built scene entries).1.filter (·.id.isSome) := by
  rw [World.memberBodies, loaded_members listed,
    ← Casting.filterMap_identified before.simulation.world.bodies]
  refine List.filterMap_congr fun handle _ => ?_
  rw [World.body?, loaded_bodies listed]

theorem body?_of_mem_loaded (listed : scene.bodies = some entries) {handle : Handle}
    (member : handle ∈ (before.loaded scene).simulation.world.members) :
    before.simulation.world.body? handle = none := by
  rw [loaded_members listed] at member
  exact Array.getElem?_eq_none (Casting.le_index_of_mem_identified member)

theorem body?_loaded (listed : scene.bodies = some entries) (index : Nat) :
    (before.loaded scene).simulation.world.body? (before.builtHandle index) =
      (before.built scene entries).1[index]? := by
  rw [World.body?, loaded_bodies listed, builtHandle, Array.getElem?_append_right (by simp)]
  simp

theorem loaded_surface (listed : scene.bodies = some entries) :
    (before.loaded scene).simulation.surface =
      { before.simulation.surface with
        camera := (scene.world.map cameraOf).getD before.simulation.surface.camera
        running := true
        frames := before.simulation.surface.frames + 1
        lastCount := (before.loaded scene).simulation.world.population } := by
  cases extent : scene.world <;>
    simp [loaded, listed, Simulation.readied, Simulation.present, Simulation.inPhase, Surface.run,
      Surface.draw, framed, extent, Surface.lookAt]

theorem loaded_runner (listed : scene.bodies = some entries) :
    (before.loaded scene).simulation.runner =
      { before.simulation.runner with running := true, enabled := false } := by
  simp [loaded, listed, Simulation.readied, Simulation.present, Simulation.inPhase, Runner.run,
    Runner.setEnabled]

theorem summary_counted (listed : scene.bodies = some entries) :
    (before.summary scene).committed + (before.summary scene).dropped +
      (before.summary scene).discarded = entries.length := by
  have dropped := (covers_casting before scene entries).dropped_add
  have discarded := (covers_casting before scene entries).discarded_add
  simp only [summary, listed]
  omega

end Loaded

/-- On a live playfield a scene with a list of bodies is loaded, from whatever came before. -/
theorem load_replaces (before : Playfield) (scene : Scene) (entries : List SceneEntry)
    (live : before.simulation.isDisposed = false) (listed : scene.bodies = some entries) :
    ∃ report after, (load scene).outcome before = (.ok report, after) ∧
      Replaces before scene entries report after := by
  have covers := covers_casting before scene entries
  have bindings : (before.loaded scene).bindings = (before.casting scene entries).bindings := by
    simp only [loaded, listed]
  refine ⟨before.summary scene, before.loaded scene, by simp [outcome_load, live], ?_⟩
  exact
    { valid_iff := fun entry _ valid => entry.valid?_eq_some_iff valid
      bodies_eq := loaded_bodies listed
      nextId_eq := by
        rw [loaded_world listed]
        simp only [World.add, World.clear, covers.world_eq, built]
      memberBodies_eq := loaded_memberBodies listed
      members_eq := loaded_members listed
      members_fresh := fun _ => body?_of_mem_loaded listed
      bindings_iff := by
        rw [bindings]
        exact covers.bindings_iff
      body?_builtHandle := body?_loaded listed
      counted := summary_counted listed
      committed_eq := by
        rw [loaded_world listed]
        simp [summary, listed, World.population, World.add, World.clear]
      dropped_add := by simpa only [summary, listed] using covers.dropped_add
      bound_eq := by simp only [summary, listed, bindings]
      diagnostics_eq := by simp only [summary, listed]
      camera_eq := by
        simp [summary, listed, loaded, Simulation.readied, Simulation.present, Simulation.inPhase,
          Surface.run, Surface.draw]
      replaced_eq := by simp only [summary, listed]
      phase_eq := by simp only [loaded, listed, Simulation.readied, Simulation.inPhase]
      runner_eq := loaded_runner listed
      surface_eq := loaded_surface listed
      gravity_eq := by
        rw [loaded_world listed]
        simp only [World.add, World.clear, covers.world_eq]
      registry_eq := by simp only [loaded, listed] }

/-- The second of two bodies of one name takes it over, also if it has no identity. -/
theorem load_replaces_twins :
    let ghost : Factory := .custom fun _ position _ =>
      pure (.atRest none (.circle 1) position .empty)
    let before := (new (.new (.new World.defaultGravity) (.new ⟨800, 600⟩))).register "ghost" ghost
    let twin (shape : String) : SceneEntry :=
      .plan { shape := some shape, position := some .zero, name := some "twin", options := .none }
    let entries := [twin "circle", .malformed .null, twin "ghost"]
    let scene := { Scene.empty with bodies := some entries }
    ∃ report after, (load scene).outcome before = (.ok report, after) ∧
      Replaces before scene entries report after ∧ report.dropped = 1 ∧
      after.simulation.world.members = [⟨0⟩] ∧ after.bindings.find? "twin" = some ⟨1⟩ := by
  intro ghost before twin entries scene
  rcases load_replaces before scene entries rfl rfl with ⟨report, after, outcome, replaces⟩
  have valids : (SceneEntry.validsOf entries).map (·.plan.name) = [some "twin", some "twin"] := by
    simp only [SceneEntry.validsOf, entries, List.filterMap_cons, SceneEntry.valid?, twin]
    rfl
  have dropped := replaces.dropped_add
  have two : (SceneEntry.validsOf entries).length = 2 := by
    simpa using congrArg List.length valids
  have three : entries.length = 3 := rfl
  refine ⟨report, after, outcome, replaces, by omega, ?_, ?_⟩
  · rw [replaces.members_eq]
    rfl
  · refine (replaces.bindings_iff "twin" ⟨1⟩).2 ⟨1, rfl, ?_⟩
    rw [valids]
    exact (lastAt_concat_self [some "twin"] "twin" 1).2 rfl

end Playfield

end PhysicsScene
