import PhysicsScene.Proofs.Loading.Numbering
import PhysicsScene.Proofs.Scene.Plain
import PhysicsScene.Proofs.Stage.Frame
import PhysicsScene.Proofs.World.Motion

/-!
# Trajectories

Between a load and the next one the bodies of a stage move by the beats that find the simulation
running, and by nothing else. `Stage.beats` reads these off a list of operations. Each body takes
one step of its own per beat (`Body.Goes`), so where it ends depends on the beats, the gravity, its
properties and the place where it began, but not on the other bodies or on how often the host
paused.
-/

namespace PhysicsScene

namespace Playfield

theorem gravity_loaded {before : Playfield} {scene : Scene} {entries : List SceneEntry}
    (listed : scene.bodies = some entries) :
    (before.loaded scene).simulation.world.gravity = before.simulation.world.gravity := by
  rw [loaded_world listed]
  simp only [World.add, World.clear, (covers_casting before scene entries).world_eq]

end Playfield

namespace Stage

variable {stage : Stage}

/-- The durations by which a list of operations moves the world, one after the other. -/
def beats (stage : Stage) : List Operation → List Float32
  | [] => []
  | operation :: later => (stage.beat? operation).toList ++ (stage.after operation).beats later

theorem Coherent.gravity_after (coherent : stage.Coherent) (operation : Operation) :
    (stage.after operation).simulation.world.gravity = stage.simulation.world.gravity := by
  cases coherent.turn_after operation with
  | rests world _ => rw [world]
  | moves duration world _ =>
      rw [world]
      rfl
  | ends world _ =>
      rw [world]
      rfl
  | loads scene entries _ _ listed loaded =>
      rw [loaded]
      exact Playfield.gravity_loaded listed

/-- The gravity of a world is that of its start. -/
theorem Coherent.gravity_run (coherent : stage.Coherent) (operations : List Operation) :
    (stage.run operations).simulation.world.gravity = stage.simulation.world.gravity := by
  induction operations generalizing stage with
  | nil => rfl
  | cons operation later ih =>
      exact (ih (coherent.after operation)).trans (coherent.gravity_after operation)

section Kept

variable (coherent : stage.Coherent) (distinct : stage.simulation.world.members.Nodup)

include coherent

theorem Coherent.members_after {operation : Operation} (keeps : operation.replaces = false)
    (goesOn : operation.ends = false) :
    (stage.after operation).simulation.world.members = stage.simulation.world.members := by
  have world := (coherent.keeps_after keeps).world_eq goesOn
  rw [world]
  cases stage.beat? operation <;> rfl

include distinct

/-- An operation that keeps the bodies moves each of them by its beat. -/
theorem Coherent.memberBodies_after {operation : Operation} (keeps : operation.replaces = false)
    (goesOn : operation.ends = false) :
    (stage.after operation).simulation.world.memberBodies =
      stage.simulation.world.memberBodies.map
        (·.travel stage.simulation.world.gravity (stage.beat? operation).toList) := by
  have world := (coherent.keeps_after keeps).world_eq goesOn
  rw [world]
  cases stage.beat? operation with
  | none => simp [Body.travel_nil]
  | some duration => exact World.memberBodies_step_eq_travel distinct duration

theorem Coherent.memberBodies_run {operations : List Operation}
    (keeps : ∀ operation ∈ operations, operation.replaces = false ∧ operation.ends = false) :
    (stage.run operations).simulation.world.members = stage.simulation.world.members ∧
      (stage.run operations).simulation.world.memberBodies =
        stage.simulation.world.memberBodies.map
          (·.travel stage.simulation.world.gravity (stage.beats operations)) := by
  induction operations generalizing stage with
  | nil =>
      refine ⟨rfl, ?_⟩
      simp only [beats, Body.travel_nil, List.map_id']
      rfl
  | cons operation later ih =>
      rcases keeps operation List.mem_cons_self with ⟨keepsFirst, goesOn⟩
      have members := coherent.members_after keepsFirst goesOn
      have bodies := coherent.memberBodies_after distinct keepsFirst goesOn
      have gravity := coherent.gravity_after operation
      -- No handle is put in or taken out, so the handles stay distinct for the later beats.
      rcases ih (coherent.after operation) (members ▸ distinct) fun other member =>
        keeps other (List.mem_cons_of_mem _ member) with ⟨laterMembers, laterBodies⟩
      refine ⟨laterMembers.trans members, laterBodies.trans ?_⟩
      rw [bodies, gravity, List.map_map]
      refine List.map_congr_left fun body _ => ?_
      exact (body.travel_append _ _ _).symm

end Kept

end Stage

/-- A run of a fresh stage that loads a list of bodies and keeps them to its end. -/
structure Course where
  settings : Settings
  earlier : List Operation
  loading : Operation
  scene : Scene
  entries : List SceneEntry
  later : List Operation
  live : ((Stage.new settings).run earlier).isDisposed = false
  registered : Factory.ArePlain ((Stage.new settings).run earlier).playfield.registry.factories
  brings : loading.scene? = some scene
  listed : scene.bodies = some entries
  plain : scene.IsPlain
  keeps : ∀ operation ∈ later, operation.replaces = false ∧ operation.ends = false

namespace Course

/-- The stage that the load finds. -/
def before (course : Course) : Stage := (Stage.new course.settings).run course.earlier

/-- The stage that the load leaves. -/
def start (course : Course) : Stage := course.before.after course.loading

/-- The stage at the end. -/
def finish (course : Course) : Stage := course.start.run course.later

/-- The durations of the beats that found the simulation running since the load. -/
def durations (course : Course) : List Float32 := course.start.beats course.later

/-- How the bodies of a course move. -/
structure Trajectories (course : Course) : Prop where
  /-- The valid entries are those with a shape that is not empty, and with a position. -/
  valid_iff : ∀ entry valid, SceneEntry.valid? entry = some valid ↔ entry.Asks valid
  /-- Every valid entry has a body, which starts at the position of the entry and at rest. -/
  starts : course.start.simulation.world.memberBodies.map Body.motion =
    (SceneEntry.validsOf course.entries).map fun valid => .rest valid.position
  members_eq : course.finish.simulation.world.members = course.start.simulation.world.members
  /-- Every body is still at its place in the order, and only its motion is another. -/
  goes : List.Forall₂ (Body.Goes course.settings.gravity course.durations)
    course.start.simulation.world.memberBodies course.finish.simulation.world.memberBodies
  /-- On two courses of one gravity and the same beats, bodies with the same properties that start
  at the same position have the same motion in the end. -/
  independent : ∀ other : Course, other.settings.gravity = course.settings.gravity →
    other.durations = course.durations → ∀ (place otherPlace : Nat) (body otherBody : Body),
      course.start.simulation.world.memberBodies[place]? = some body →
      other.start.simulation.world.memberBodies[otherPlace]? = some otherBody →
      otherBody.position = body.position → otherBody.properties = body.properties →
      ∃ moved otherMoved : Body,
        course.finish.simulation.world.memberBodies[place]? = some moved ∧
        other.finish.simulation.world.memberBodies[otherPlace]? = some otherMoved ∧
        otherMoved.motion = moved.motion

variable (course : Course)

theorem coherent_before : course.before.Coherent :=
  (Stage.coherent_new course.settings).run course.earlier

theorem castsPlain : course.before.playfield.CastsPlain course.scene :=
  Registry.isPlain_resolve (Registry.isPlain_resolve_none course.registered) course.plain

theorem start_eq : course.start = course.before.loaded course.scene :=
  Stage.after_of_scene? course.live course.brings

theorem gravity_start : course.start.simulation.world.gravity = course.settings.gravity := by
  have coherent := Stage.coherent_new course.settings
  exact (course.coherent_before.gravity_after course.loading).trans
    (coherent.gravity_run course.earlier)

theorem memberBodies_start : course.start.simulation.world.memberBodies =
    course.before.playfield.numbered course.scene course.entries := by
  rw [start_eq]
  exact Playfield.loaded_memberBodies_of_plain course.castsPlain course.listed

theorem memberBodies_finish :
    course.finish.simulation.world.members = course.start.simulation.world.members ∧
      course.finish.simulation.world.memberBodies =
        course.start.simulation.world.memberBodies.map
          (·.travel course.settings.gravity course.durations) := by
  have coherent := course.coherent_before.after course.loading
  have distinct : course.start.simulation.world.members.Nodup := by
    rw [start_eq]
    exact Playfield.nodup_loaded_members_of_plain course.castsPlain course.listed
  rw [← course.gravity_start]
  exact coherent.memberBodies_run distinct course.keeps

theorem motions_start : course.start.simulation.world.memberBodies.map Body.motion =
    (SceneEntry.validsOf course.entries).map fun valid => .rest valid.position := by
  rw [memberBodies_start, Playfield.numbered, Casting.map_number fun _ _ => rfl,
    Playfield.forms, List.map_map]
  refine List.map_congr_left fun valid _ => ?_
  have position := Casting.position_formOf course.castsPlain valid
  have velocity := Casting.velocity_formOf course.castsPlain valid
  exact congrArg₂ Motion.mk position velocity

theorem velocity_start {place : Nat} {body : Body}
    (here : course.start.simulation.world.memberBodies[place]? = some body) :
    body.velocity = .zero := by
  have motion : body.motion ∈ course.start.simulation.world.memberBodies.map Body.motion :=
    List.mem_map_of_mem (List.mem_of_getElem? here)
  rw [motions_start] at motion
  rcases List.mem_map.1 motion with ⟨valid, _, same⟩
  exact (congrArg Motion.velocity same).symm

/-- A body goes its own way by the beats of the course, as if it were alone. -/
theorem getElem?_finish {place : Nat} {body : Body}
    (here : course.start.simulation.world.memberBodies[place]? = some body) :
    course.finish.simulation.world.memberBodies[place]? =
      some (body.travel course.settings.gravity course.durations) := by
  rw [course.memberBodies_finish.2, List.getElem?_map, here]
  rfl

/-- The bodies of a load move each by itself, until another list of bodies takes their place. -/
theorem trajectories (course : Course) : course.Trajectories where
  valid_iff := SceneEntry.valid?_eq_some_iff
  starts := course.motions_start
  members_eq := course.memberBodies_finish.1
  goes := by
    rw [course.memberBodies_finish.2, List.forall₂_map_right_iff, List.forall₂_same]
    exact fun body _ => body.goes_travel _ _
  independent := by
    intro other gravity durations place otherPlace body otherBody here there position properties
    refine ⟨_, _, course.getElem?_finish here, other.getElem?_finish there, ?_⟩
    have motion : otherBody.motion = body.motion := by
      rw [Body.motion, Body.motion, position, course.velocity_start here,
        other.velocity_start there]
    rw [gravity, durations, Body.travel, Body.travel, Body.motion_withMotion,
      Body.motion_withMotion, motion, properties]

/-- A ball falls through thin air alone, and falls the same beside others, with pauses and a moved
camera. The others are static, in air that stops everything, and in air that would speed it up. -/
theorem trajectories_paused :
    let whole (value : Fin 3) : Json := .number (.integer (value.val - 1) (by
      unfold Number.InRange
      omega))
    let quarter : Json := .number (.real 0.25 (by decide +kernel))
    let ball (properties : Properties) : SceneEntry :=
      .plan
        { shape := some "circle", position := some ⟨3, 4⟩, name := none
          options := { BodyOptions.none with properties } }
    let light := ball (Dictionary.empty.insert "frictionAir" quarter)
    let rock := ball
      ((Dictionary.empty.insert "frictionAir" quarter).insert "isStatic" (.boolean true))
    let stuck := ball (Dictionary.empty.insert "frictionAir" (whole 2))
    let free := ball (Dictionary.empty.insert "frictionAir" (whole 0))
    let one := { Scene.empty with bodies := some [light] }
    let entries := [rock, .malformed .null, light, stuck, free]
    let many := { Scene.empty with bodies := some entries }
    let view := { Scene.empty with world := some ⟨some 10, none⟩ }
    let alone : Course :=
      { settings := { Settings.default with timeStep := 0.25 }
        earlier := [], loading := .load one, scene := one
        entries := [light], later := [.start, .tickBy 0.5, .tick]
        live := rfl, registered := Registry.arePlain_standard, brings := rfl, listed := rfl
        plain := Scene.isPlain_empty, keeps := by decide }
    let beside : Course :=
      { alone with
        earlier := [.load one, .start, .tick], loading := .arrive (.ok many), scene := many
        entries
        later := [.tick, .start, .tickBy 0.5, .pause, .tickBy 7, .load view, .start, .tick]
        live := by decide +kernel
        registered := by
          rw [(Stage.coherent_new _).registry_run]
          exact Registry.arePlain_standard
        brings := rfl, listed := rfl
        plain := Scene.isPlain_empty
        keeps := by decide }
    alone.Trajectories ∧ alone.durations = [0.5, 0.25] ∧ beside.durations = alone.durations ∧
      (∃ moved otherMoved : Body,
        alone.finish.simulation.world.memberBodies[0]? = some moved ∧
        beside.finish.simulation.world.memberBodies[1]? = some otherMoved ∧
        otherMoved.motion = moved.motion) ∧
      alone.finish.simulation.world.memberBodies.map Body.motion =
        [⟨⟨3, 308.6875⟩, ⟨0, 468.75⟩⟩] ∧
      beside.finish.simulation.world.memberBodies.map Body.motion =
        [.rest ⟨3, 4⟩, ⟨⟨3, 308.6875⟩, ⟨0, 468.75⟩⟩, .rest ⟨3, 4⟩, ⟨⟨3, 441.5⟩, ⟨0, 750⟩⟩] := by
  intro whole quarter ball light rock stuck free one entries many view alone beside
  have moves := trajectories alone
  have durations : alone.durations = [0.5, 0.25] := by decide +kernel
  have same : beside.durations = alone.durations := by decide +kernel
  have here : ∃ body : Body, alone.start.simulation.world.memberBodies[0]? = some body ∧
      body.position = ⟨3, 4⟩ ∧
      body.properties = Dictionary.empty.insert "frictionAir" quarter := by
    rw [memberBodies_start]
    exact ⟨_, rfl, rfl, rfl⟩
  have there : ∃ body : Body, beside.start.simulation.world.memberBodies[1]? = some body ∧
      body.position = ⟨3, 4⟩ ∧
      body.properties = Dictionary.empty.insert "frictionAir" quarter := by
    rw [memberBodies_start]
    exact ⟨_, rfl, rfl, rfl⟩
  rcases here with ⟨body, isBody, position, properties⟩
  rcases there with ⟨otherBody, isOther, otherPosition, otherProperties⟩
  refine ⟨moves, durations, same, ?_, by decide +kernel, by decide +kernel⟩
  exact moves.independent beside rfl same 0 1 body otherBody isBody isOther
    (otherPosition.trans position.symm) (otherProperties.trans properties.symm)

end Course

end PhysicsScene
