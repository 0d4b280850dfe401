import PhysicsScene.Proofs.Stage.Frame

/-!
# Stages that show the same

Two stages match if they have the same shapes, names, world, camera and time step. They may be in
different phases and may have drawn different frames, so the way in which each of them came about is
left out. A load takes the same from both and reports the same. Once both are started, their beats
move the two worlds alike, however many there are.
-/

namespace PhysicsScene

namespace Simulation

theorem camera_started (simulation : Simulation) :
    simulation.started.surface.camera = simulation.surface.camera := by
  cases phase : simulation.phase <;>
    simp [started, phase, present, setEnabled, inPhase, Surface.run, Surface.draw]

theorem camera_ticked (simulation : Simulation) (duration : Float32) :
    (simulation.ticked duration).surface.camera = simulation.surface.camera := by
  have drawn : ∀ surface : Surface, ∀ count, (surface.draw count).camera = surface.camera := by
    intro surface count
    rw [Surface.draw]
    split <;> rfl
  cases phase : simulation.phase <;> simp [ticked, phase, draw, tickRunner, drawn]

end Simulation

namespace Stage

/-- Two stages show the same and will load the same, whatever their phases are. -/
structure Matches (first second : Stage) : Prop where
  registry_eq : first.playfield.registry = second.playfield.registry
  bindings_eq : first.playfield.bindings = second.playfield.bindings
  world_eq : first.simulation.world = second.simulation.world
  camera_eq : first.simulation.surface.camera = second.simulation.surface.camera
  timeStep_eq : first.settings.timeStep = second.settings.timeStep

namespace Matches

variable {first second : Stage} (isMatch : first.Matches second)

include isMatch

theorem framed_camera (scene : Scene) :
    (Playfield.framed first.simulation scene.world).surface.camera =
      (Playfield.framed second.simulation scene.world).surface.camera := by
  cases scene.world with
  | none => exact isMatch.camera_eq
  | some extent => rfl

theorem casting_eq (scene : Scene) (entries : List SceneEntry) :
    first.playfield.casting scene entries = second.playfield.casting scene entries := by
  have world : first.playfield.simulation.world = second.playfield.simulation.world :=
    isMatch.world_eq
  rw [Playfield.casting, Playfield.casting, isMatch.registry_eq, world]

theorem summary_eq (scene : Scene) :
    first.playfield.summary scene = second.playfield.summary scene := by
  have camera : (Playfield.framed first.playfield.simulation scene.world).surface.camera =
      (Playfield.framed second.playfield.simulation scene.world).surface.camera :=
    isMatch.framed_camera scene
  simp only [Playfield.summary, camera, isMatch.casting_eq scene]

theorem loaded (scene : Scene) : (first.loaded scene).Matches (second.loaded scene) := by
  have camera := isMatch.framed_camera scene
  cases listed : scene.bodies with
  | none =>
      have world := isMatch.world_eq
      have bindings := isMatch.bindings_eq
      refine ⟨?_, ?_, ?_, ?_, isMatch.timeStep_eq⟩
      · simpa only [Stage.loaded, Playfield.loaded, listed] using isMatch.registry_eq
      · rw [bindings_loaded_of_none first listed, bindings_loaded_of_none second listed, bindings]
      · rw [simulation_loaded_of_none first listed, simulation_loaded_of_none second listed]
        cases scene.world <;> exact world
      · rw [simulation_loaded_of_none first listed, simulation_loaded_of_none second listed, camera]
  | some entries =>
      have casting := isMatch.casting_eq scene entries
      refine ⟨?_, ?_, ?_, ?_, isMatch.timeStep_eq⟩
      · simpa only [Stage.loaded, Playfield.loaded, listed] using isMatch.registry_eq
      · simp only [Stage.loaded, Playfield.loaded, listed, casting]
      · simp only [Stage.loaded, simulation, Playfield.loaded_world listed, casting]
      · simp only [Stage.loaded, simulation, Playfield.loaded_surface listed]
        rw [show first.playfield.simulation.surface.camera =
          second.playfield.simulation.surface.camera from isMatch.camera_eq]

/-- The names stand in both stages for bodies in the same places. -/
theorem namedBodies_eq : first.playfield.namedBodies = second.playfield.namedBodies := by
  have world : first.playfield.simulation.world = second.playfield.simulation.world :=
    isMatch.world_eq
  rw [Playfield.namedBodies, Playfield.namedBodies, isMatch.bindings_eq, world]

theorem after_start (live : first.isDisposed = false) (otherLive : second.isDisposed = false) :
    (first.after .start).Matches (second.after .start) := by
  rw [after_of_live live, after_of_live otherLive]
  refine ⟨isMatch.registry_eq, isMatch.bindings_eq, ?_, ?_, isMatch.timeStep_eq⟩
  · exact (Simulation.world_started _).trans
      (isMatch.world_eq.trans (Simulation.world_started _).symm)
  · exact (Simulation.camera_started _).trans
      (isMatch.camera_eq.trans (Simulation.camera_started _).symm)

/-- In running stages a beat moves both worlds by the same duration. -/
theorem after_tick (coherent : first.Coherent) (otherCoherent : second.Coherent)
    (running : first.simulation.phase = .running)
    (otherRunning : second.simulation.phase = .running) :
    (first.after .tick).Matches (second.after .tick) := by
  have live : first.isDisposed = false := by simp [isDisposed, Simulation.isDisposed, running]
  have otherLive : second.isDisposed = false := by
    simp [isDisposed, Simulation.isDisposed, otherRunning]
  rw [after_of_live live, after_of_live otherLive]
  refine ⟨isMatch.registry_eq, isMatch.bindings_eq, ?_, ?_, isMatch.timeStep_eq⟩
  · refine (coherent.simulation.world_ticked _).trans
      (Eq.trans ?_ (otherCoherent.simulation.world_ticked _).symm)
    rw [if_pos running, if_pos otherRunning, isMatch.world_eq, isMatch.timeStep_eq]
  · exact (Simulation.camera_ticked _ _).trans
      (isMatch.camera_eq.trans (Simulation.camera_ticked _ _).symm)

/-- Started stages that match go on matching for any number of beats. -/
theorem run_ticks (coherent : first.Coherent) (otherCoherent : second.Coherent)
    (running : first.simulation.phase = .running)
    (otherRunning : second.simulation.phase = .running) (count : Nat) :
    (first.run (.replicate count .tick)).Matches (second.run (.replicate count .tick)) := by
  induction count generalizing first second with
  | zero => exact isMatch
  | succ count ih =>
      have next : ∀ phase : Phase, phase = .running → phase.next .tick = .running := by
        rintro _ rfl
        rfl
      exact ih (isMatch.after_tick coherent otherCoherent running otherRunning)
        (coherent.after .tick) (otherCoherent.after .tick)
        ((phase_after first .tick).trans (next _ running))
        ((phase_after second .tick).trans (next _ otherRunning))

/-- Stages that match still match after a start and any number of beats. -/
theorem run_start_ticks (coherent : first.Coherent) (otherCoherent : second.Coherent)
    (live : first.isDisposed = false) (otherLive : second.isDisposed = false) (count : Nat) :
    (first.run (.start :: .replicate count .tick)).Matches
      (second.run (.start :: .replicate count .tick)) := by
  have starts : ∀ stage : Stage, stage.isDisposed = false →
      (stage.after .start).simulation.phase = .running := by
    intro stage stageLive
    rw [phase_after, Phase.next_of_ne_disposed (of_decide_eq_false stageLive)]
  exact (isMatch.after_start live otherLive).run_ticks (coherent.after .start)
    (otherCoherent.after .start) (starts first live) (starts second otherLive) count

end Matches

/-- A stage that has drawn a frame shows what it showed before. -/
theorem matches_ready (settings : Settings) (url : String) :
    (new settings).Matches ((new { settings with compileUrl := url }).after .ready) :=
  ⟨rfl, rfl, rfl, rfl, rfl⟩

end Stage

end PhysicsScene
