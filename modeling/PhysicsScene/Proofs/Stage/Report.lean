import PhysicsScene.Proofs.Stage.Outcome

/-!
# Reports of loads

A load ends in one of two ways, with and without a list of bodies, and its report is to describe the
playfield that it leaves behind (`Playfield.Reports`). The camera, the diagnostics and the bodies are
right in both ways. The names are counted only where they are bound anew, so a load that keeps the
bodies reports no name, whatever names are kept (`Stage.load_reports`).
-/

namespace PhysicsScene

namespace Playfield

/-- What the report of a load says about the playfield after it. -/
structure Reports (before : Playfield) (scene : Scene) (report : LoadSummary)
    (after : Playfield) : Prop where
  camera_eq : report.camera = some after.simulation.surface.camera
  diagnostics_eq : report.diagnostics = (scene.diagnostics.getD []).length
  replaced_iff : report.replaced = true ↔ scene.bodies.isSome
  committed_eq : report.replaced = true → report.committed = after.simulation.world.population
  /-- The names are right after new ones are bound, or if there are none to keep. -/
  bound_iff : report.bound = after.bindings.size ↔
    report.replaced = true ∨ before.bindings.size = 0

variable {before : Playfield} {scene : Scene}

theorem summary_camera (before : Playfield) (scene : Scene) :
    (before.summary scene).camera = some (before.loaded scene).simulation.surface.camera := by
  cases listed : scene.bodies with
  | none => simp [summary, loaded, listed]
  | some entries =>
      simp [summary, loaded, listed, Simulation.readied, Simulation.present, Simulation.inPhase,
        Surface.run, Surface.draw]

theorem summary_diagnostics (before : Playfield) (scene : Scene) :
    (before.summary scene).diagnostics = (scene.diagnostics.getD []).length := by
  cases listed : scene.bodies <;> simp [summary, listed, Scene.diagnosticCount]

theorem summary_replaced (before : Playfield) (scene : Scene) :
    (before.summary scene).replaced = scene.bodies.isSome := by
  cases listed : scene.bodies <;> simp [summary, listed]

theorem summary_committed {entries : List SceneEntry} (listed : scene.bodies = some entries) :
    (before.summary scene).committed = (before.loaded scene).simulation.world.population := by
  rw [loaded_world listed]
  simp [summary, listed, World.population, World.add, World.clear]

theorem summary_bound {entries : List SceneEntry} (listed : scene.bodies = some entries) :
    (before.summary scene).bound = (before.loaded scene).bindings.size := by
  simp [summary, loaded, listed]

/-- Without a list of bodies all names are kept and none is counted. -/
theorem summary_bound_of_none (before : Playfield) (unlisted : scene.bodies = none) :
    (before.summary scene).bound = 0 ∧ (before.loaded scene).bindings = before.bindings := by
  simp [summary, loaded, unlisted]

theorem reports_loaded (before : Playfield) (scene : Scene) :
    Reports before scene (before.summary scene) (before.loaded scene) where
  camera_eq := summary_camera before scene
  diagnostics_eq := summary_diagnostics before scene
  replaced_iff := by rw [summary_replaced]
  committed_eq := by
    intro replaced
    rw [summary_replaced] at replaced
    rcases Option.isSome_iff_exists.1 replaced with ⟨entries, listed⟩
    exact summary_committed listed
  bound_iff := by
    rw [summary_replaced]
    cases listed : scene.bodies with
    | none =>
        rcases summary_bound_of_none before listed with ⟨bound, kept⟩
        simp [bound, kept, eq_comm]
    | some entries => simp [summary_bound listed]

end Playfield

namespace Stage

/-- A load on a live stage succeeds, and its report describes the stage after it, except for the
names that a scene without a list of bodies keeps. -/
theorem load_reports {stage : Stage} (live : stage.isDisposed = false) (scene : Scene) :
    ∃ report after, (load scene).outcome stage = (.ok report, after) ∧
      Playfield.Reports stage.playfield scene report after.playfield :=
  ⟨stage.playfield.summary scene, stage.loaded scene, by simp [outcome_load, live],
    Playfield.reports_loaded stage.playfield scene⟩

/-- Two bodies of one name, of which one has no identity, on a running stage with another name. -/
theorem load_reports_twins :
    let entry (shape name : String) : SceneEntry :=
      .plan { shape := some shape, position := some .zero, name := some name, options := .none }
    let first := { Scene.empty with bodies := some [entry "circle" "first"] }
    let ghost : Factory := .custom fun _ position _ =>
      pure (.atRest none (.circle 1) position .empty)
    let stage := (new .default).run [.register "ghost" ghost, .load first, .start]
    let scene := { Scene.empty with
      world := some ⟨some 300, none⟩
      bodies := some [entry "circle" "twin", .malformed .null, entry "ghost" "twin"]
      diagnostics := some [⟨.null⟩, ⟨.null⟩] }
    stage.isDisposed = false ∧ ∃ report after, (load scene).outcome stage = (.ok report, after) ∧
      Playfield.Reports stage.playfield scene report after.playfield ∧
      report.committed = 1 ∧ report.bound = 1 ∧ report.diagnostics = 2 ∧
      after.playfield.bindings.find? "first" = none := by
  intro entry first ghost stage scene
  have live : stage.isDisposed = false := rfl
  rcases load_reports live scene with ⟨report, after, outcome, reports⟩
  have computed : (load scene).outcome stage = (.ok (stage.playfield.summary scene),
      stage.loaded scene) := by
    rw [outcome_load]
    rfl
  cases outcome.symm.trans computed
  exact ⟨live, _, _, outcome, reports, rfl, rfl, rfl, rfl⟩

/-- A scene that only moves the camera reports no name although one is kept. -/
theorem not_load_reports_bound : ¬∀ (stage : Stage) (scene : Scene), stage.isDisposed = false →
    ∀ report after, (load scene).outcome stage = (.ok report, after) →
      report.bound = after.playfield.bindings.size := by
  intro counts
  let kept : SceneEntry :=
    .plan { shape := some "circle", position := some .zero, name := some "kept", options := .none }
  let stage := (new .default).run [.load { Scene.empty with bodies := some [kept] }]
  have outcome : (load .empty).outcome stage =
      (.ok (stage.playfield.summary .empty), stage.loaded .empty) := by
    rw [outcome_load]
    rfl
  have same := counts stage .empty rfl _ _ outcome
  exact absurd same (by decide +kernel)

end Stage

end PhysicsScene
