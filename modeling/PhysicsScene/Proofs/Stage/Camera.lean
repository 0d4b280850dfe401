import PhysicsScene.Proofs.Number.Conversion
import PhysicsScene.Proofs.Scene.Framing
import PhysicsScene.Proofs.Stage.Matching

/-!
# The camera of a stage

Nothing but a load of a scene with a world points the camera, so that after any run it shows the
world of the last such load (`Stage.camera_run`). A size of this world that is missing or zero, of
either sign, is taken as 1000. A scene without a list of bodies does no more than this: in whatever
phase the load finds a live stage, everything but the camera is as before, and the next beats are
those that would have come without the load.
-/

namespace PhysicsScene

namespace Camera

/-- The side of a camera for a size of the world. -/
inductive IsSide : Option Float32 → Float32 → Prop
  | given {size : Float32} (notZero : ¬Single.IsZero size) : IsSide (some size) size
  | zero {size : Float32} (isZero : Single.IsZero size) : IsSide (some size) 1000
  | missing : IsSide none 1000

/-- The camera for the extent of a world, and the one before there is a world. -/
inductive Shows : Option WorldExtent → Camera → Prop
  | first : Shows none ⟨⟨0, 0⟩, ⟨1000, 1000⟩⟩
  | world {extent : WorldExtent} {width height : Float32} (isWidth : IsSide extent.width width)
      (isHeight : IsSide extent.height height) :
      Shows (some extent) ⟨⟨0, 0⟩, ⟨width, height⟩⟩

/-- A size has one side. -/
theorem IsSide.unique {size : Option Float32} {side other : Float32} (isSide : IsSide size side)
    (isOther : IsSide size other) : side = other := by
  cases isSide with
  | given notZero =>
      cases isOther with
      | given => rfl
      | zero isZero => exact absurd isZero notZero
  | zero isZero =>
      cases isOther with
      | given notZero => exact absurd isZero notZero
      | zero => rfl
  | missing =>
      cases isOther
      rfl

/-- An extent has one camera. -/
theorem Shows.unique {extent : Option WorldExtent} {camera other : Camera}
    (shows : Shows extent camera) (otherShows : Shows extent other) : camera = other := by
  cases shows with
  | first =>
      cases otherShows
      rfl
  | world isWidth isHeight =>
      cases otherShows with
      | world otherWidth otherHeight =>
          rw [isWidth.unique otherWidth, isHeight.unique otherHeight]

theorem isSide_extentOr (size : Option Float32) : IsSide size (Playfield.extentOr size) := by
  cases size with
  | none => exact .missing
  | some size =>
      have equal := Single.beq_zero_iff size
      rw [Playfield.extentOr, Option.filter_some]
      cases isEqual : size == 0 with
      | true => exact .zero (equal.1 isEqual)
      | false =>
          apply IsSide.given
          intro isZero
          rw [equal.2 isZero] at isEqual
          cases isEqual

theorem shows_cameraOf (extent : WorldExtent) : Shows (some extent) (Playfield.cameraOf extent) :=
  .world (isSide_extentOr extent.width) (isSide_extentOr extent.height)

end Camera

namespace Simulation

theorem camera_halted (simulation : Simulation) :
    simulation.halted.surface.camera = simulation.surface.camera := by
  cases phase : simulation.phase <;> simp [halted, phase, setEnabled, inPhase]

theorem camera_dispose (simulation : Simulation) :
    simulation.dispose.surface.camera = simulation.surface.camera := by
  rw [dispose]
  split <;> rfl

/-- The simulation with its camera on a region. -/
def withCamera (simulation : Simulation) (camera : Camera) : Simulation :=
  { simulation with surface := simulation.surface.lookAt camera }

theorem draw_withCamera (simulation : Simulation) (camera : Camera) :
    (simulation.withCamera camera).draw = simulation.draw.withCamera camera := by
  cases running : simulation.surface.running <;>
    simp [draw, withCamera, Surface.draw, Surface.lookAt, running]

/-- A beat does the same under every camera. -/
theorem ticked_withCamera (simulation : Simulation) (camera : Camera) (duration : Float32) :
    (simulation.withCamera camera).ticked duration =
      (simulation.ticked duration).withCamera camera := by
  have same : (simulation.withCamera camera).phase = simulation.phase := rfl
  rw [ticked, ticked, same]
  cases simulation.phase with
  | constructed => rfl
  | running => exact draw_withCamera (simulation.tickRunner duration) camera
  | _ => exact draw_withCamera simulation camera

end Simulation

namespace Stage

/-- The stage with its camera on a region. -/
def withCamera (stage : Stage) (camera : Camera) : Stage :=
  stage.mapSimulation (·.withCamera camera)

/-- The extent of the world that an operation loads, if it answers with the report of a load. -/
def extent? (stage : Stage) (operation : Operation) : Option WorldExtent :=
  (stage.report? operation).bind fun _ => operation.scene?.bind (·.world)

/-- The extents of the worlds that a run loads, in their order. -/
def extents (stage : Stage) : List Operation → List WorldExtent
  | [] => []
  | operation :: later => (stage.extent? operation).toList ++ (stage.after operation).extents later

variable {stage : Stage}

theorem extent?_of_live (live : stage.isDisposed = false) (operation : Operation) :
    stage.extent? operation = operation.scene?.bind (·.world) := by
  rw [extent?, report?_eq, live, if_neg Bool.false_ne_true]
  cases operation.scene? with
  | none => rfl
  | some scene => rfl

theorem camera_loaded (stage : Stage) (scene : Scene) :
    (stage.loaded scene).simulation.surface.camera =
      (scene.world.map Playfield.cameraOf).getD stage.simulation.surface.camera := by
  have framed : (Playfield.framed stage.simulation scene.world).surface.camera =
      (scene.world.map Playfield.cameraOf).getD stage.simulation.surface.camera := by
    cases scene.world with
    | none => rfl
    | some extent => rfl
  cases bodies : scene.bodies with
  | none => rw [stage.simulation_loaded_of_none bodies, framed]
  | some entries =>
      rcases stage.simulation_loaded_of_some bodies with ⟨world, same⟩
      rw [same, ← framed]
      rfl

/-- An operation points the camera at the world that it loads, and not at all without one. -/
theorem camera_after (stage : Stage) (operation : Operation) :
    (stage.after operation).simulation.surface.camera =
      ((stage.extent? operation).map Playfield.cameraOf).getD stage.simulation.surface.camera := by
  cases life : stage.isDisposed with
  | true =>
      rw [after_of_disposed life, simulation_disposedAfter, extent?, report?_eq, life, if_pos rfl]
      rfl
  | false =>
      rw [extent?_of_live life]
      cases brings : operation.scene? with
      | some scene => exact after_of_scene? life brings ▸ camera_loaded stage scene
      | none =>
          rw [after_of_live life, Option.bind_none, Option.map_none, Option.getD_none]
          cases operation with
          | ready => rfl
          | start => exact Simulation.camera_started _
          | pause => exact Simulation.camera_halted _
          | tick => exact Simulation.camera_ticked _ _
          | tickBy duration => exact Simulation.camera_ticked _ _
          | load scene => cases brings
          | loadText text =>
              cases decoded : Scene.decode text with
              | ok scene =>
                  simp only [Operation.scene?, decoded] at brings
                  cases brings
              | error fault => simp only [liveAfter, decoded]
          | resizeWindow width height =>
              simp only [liveAfter, resizeWindow, life, Bool.false_eq_true, if_false]
              rfl
          | dispose => exact Simulation.camera_dispose _
          | noteDebug debug | register name factory => rfl
          | bodies | snapshot | camera => rfl
          | arrive result =>
              cases result with
              | ok scene => cases brings
              | error failure => rfl

/-- After a run the camera is where the last load of a world left it. -/
theorem camera_run (stage : Stage) (operations : List Operation) :
    (stage.run operations).simulation.surface.camera =
      ((stage.extents operations).getLast?.map Playfield.cameraOf).getD
        stage.simulation.surface.camera := by
  induction operations generalizing stage with
  | nil => rfl
  | cons operation later ih =>
      have next : (stage.run (operation :: later)) = (stage.after operation).run later := rfl
      rw [next, ih, camera_after, extents, List.getLast?_append]
      cases ((stage.after operation).extents later).getLast? with
      | some extent => rfl
      | none => cases stage.extent? operation <;> rfl

theorem loaded_of_none (stage : Stage) {scene : Scene} (unlisted : scene.bodies = none) :
    stage.loaded scene = stage.withCamera
      ((scene.world.map Playfield.cameraOf).getD stage.simulation.surface.camera) := by
  have framed : ∀ extent, Playfield.framed stage.simulation extent = stage.simulation.withCamera
      ((extent.map Playfield.cameraOf).getD stage.simulation.surface.camera) := by
    intro extent
    cases extent with
    | none => rfl
    | some extent => rfl
  simp only [loaded, Playfield.loaded, unlisted]
  exact congrArg (fun simulation => stage.mapSimulation fun _ => simulation) (framed scene.world)

theorem withCamera_tickBy (live : stage.isDisposed = false) (camera : Camera)
    (duration : Float32) :
    (stage.withCamera camera).answer (.tickBy duration) = stage.answer (.tickBy duration) ∧
      (stage.withCamera camera).after (.tickBy duration) =
        (stage.after (.tickBy duration)).withCamera camera := by
  have stillLive : (stage.withCamera camera).isDisposed = false := live
  rw [answer_of_live live, answer_of_live stillLive, after_of_live live, after_of_live stillLive]
  refine ⟨rfl, ?_⟩
  simp only [liveAfter, withCamera, mapSimulation, Simulation.ticked_withCamera]

/-- Where the camera of a stage is after a run of a fresh stage, and what moves it from there. -/
structure ShowsWorld (settings : Settings) (operations : List Operation) (stage : Stage) :
    Prop where
  /-- It shows the world that was loaded last. -/
  shows : stage.simulation.surface.camera.Shows ((new settings).extents operations).getLast?
  answer_eq : stage.isDisposed = false →
    stage.answer .camera = .ok (.camera stage.simulation.surface.camera)
  /-- On a live stage every scene that arrives is loaded. -/
  extent?_eq : stage.isDisposed = false → ∀ operation,
    stage.extent? operation = operation.scene?.bind (·.world)
  /-- Whatever loads no world leaves the camera where it is. -/
  stays : ∀ operation, stage.extent? operation = none →
    (stage.after operation).simulation.surface.camera = stage.simulation.surface.camera

/-- What a load does that is to leave the bodies alone. -/
structure OnlyPoints (before : Stage) (scene : Scene) (operation : Operation) (after : Stage) :
    Prop where
  /-- The load succeeds, and reports no bodies and the camera. -/
  report : ∃ report, before.report? operation = some report ∧ report.replaced = false ∧
    report.camera = some after.simulation.surface.camera
  /-- Nothing but the camera is another one. -/
  after_eq : after = before.withCamera after.simulation.surface.camera
  stays : scene.world = none → after = before
  shows : ∀ extent, scene.world = some extent →
    after.simulation.surface.camera.Shows (some extent)
  /-- The next beat does what it would have done without the load. -/
  tickBy : ∀ duration, after.answer (.tickBy duration) = before.answer (.tickBy duration) ∧
    after.after (.tickBy duration) =
      (before.after (.tickBy duration)).withCamera after.simulation.surface.camera

theorem showsWorld_run (settings : Settings) (operations : List Operation) :
    ShowsWorld settings operations ((new settings).run operations) where
  shows := by
    rw [camera_run]
    cases ((new settings).extents operations).getLast? with
    | none => exact .first
    | some extent => exact Camera.shows_cameraOf extent
  answer_eq := fun live => answer_of_live live .camera
  extent?_eq := extent?_of_live
  stays := by
    intro operation nothing
    rw [camera_after, nothing]
    rfl

/-- It does not matter in which way the scene comes. -/
theorem onlyPoints_after (live : stage.isDisposed = false) {operation : Operation} {scene : Scene}
    (brings : operation.scene? = some scene) (unlisted : scene.bodies = none) :
    OnlyPoints stage scene operation (stage.after operation) := by
  have camera := camera_loaded stage scene
  have loaded := loaded_of_none stage unlisted
  rw [after_of_scene? live brings]
  refine ⟨?_, ?_, ?_, ?_, ?_⟩
  · refine ⟨stage.playfield.summary scene, ?_, ?_, ?_⟩
    · rw [report?_eq, live, brings]
      rfl
    · simp only [Playfield.summary, unlisted]
    · rw [camera]
      simp only [Playfield.summary, unlisted]
      cases scene.world <;> rfl
  · rw [camera]
    exact loaded
  · intro noWorld
    rw [loaded, noWorld]
    rfl
  · intro extent isWorld
    rw [camera, isWorld]
    exact Camera.shows_cameraOf extent
  · intro duration
    rw [camera, loaded]
    exact withCamera_tickBy live _ duration

/-- Along every run the camera shows the world that was loaded last, and in every state a load
without a list of bodies does nothing else. Such a load comes of a document without this list. -/
theorem camera_history (settings : Settings) (operations : List Operation) :
    ShowsWorld settings operations ((new settings).run operations) ∧
      (∀ stage : Stage, stage.isDisposed = false → ∀ operation scene,
        operation.scene? = some scene → scene.bodies = none →
          OnlyPoints stage scene operation (stage.after operation)) ∧
      ∀ text document scene, Json.readWhole Json.read text = .ok document →
        document.UniqueKeys → Scene.decode text = .ok scene →
          ∃ parts, Json.Members Scene.partNames document parts ∧ scene.IsFramedBy parts := by
  refine ⟨showsWorld_run settings operations, ?_, ?_⟩
  · intro stage live operation scene brings unlisted
    exact onlyPoints_after live brings unlisted
  · intro text document scene reads unique decoded
    exact Scene.exists_isFramedBy reads unique decoded

/-- A running stage is shown a world without a height, and then one without any size. -/
theorem camera_history_running :
    let wide := { Scene.empty with world := some ⟨some 640, some (-0)⟩ }
    let empty := { Scene.empty with world := some ⟨none, some 0⟩ }
    let stage := (new .default).run [.load wide, .start, .resizeWindow 3 4, .tick]
    let after := stage.after (.load empty)
    stage.simulation.surface.camera = ⟨⟨0, 0⟩, ⟨640, 1000⟩⟩ ∧ after = stage.withCamera .initial ∧
      after.answer .tick = .ok (.stepped true) := by
  intro wide empty stage after
  rcases camera_history .default [.load wide, .start, .resizeWindow 3 4, .tick] with
    ⟨history, only, -⟩
  have live : stage.isDisposed = false := by decide +kernel
  have points : stage.OnlyPoints empty (.load empty) after := only stage live _ empty rfl rfl
  have last : ((new .default).extents [.load wide, .start, .resizeWindow 3 4, .tick]).getLast? =
      some ⟨some 640, some (-0)⟩ := by decide +kernel
  have isZero : Single.IsZero (-0) := (Single.beq_zero_iff _).1 (by decide +kernel)
  have notZero : ¬Single.IsZero 640 := fun isZero =>
    absurd ((Single.beq_zero_iff _).2 isZero) (by decide +kernel)
  have shows := history.shows
  rw [last] at shows
  refine ⟨?_, ?_, ?_⟩
  · exact shows.unique (.world (.given notZero) (.zero isZero))
  · have isInitial : after.simulation.surface.camera = .initial := by decide +kernel
    exact isInitial ▸ points.after_eq
  · rw [answer_tick]
    refine (points.tickBy _).1.trans ?_
    rfl

end Stage

end PhysicsScene
