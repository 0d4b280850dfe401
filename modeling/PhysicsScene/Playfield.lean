import PhysicsScene.Scene.Basic
import PhysicsScene.Simulation.Basic

/-!
# Loading scenes

A playfield is a simulation together with the shapes that it knows and the bodies that have names.
Loading a scene frames the camera on its world, builds a body for every entry that can be built,
binds the names, and puts the new bodies in the place of the old ones. A scene without a list of
bodies moves the camera at most.
-/

namespace PhysicsScene

/-- Named bodies. -/
abbrev Variables := Dictionary Handle

/-- A simulation with its shapes and names. -/
structure Playfield where
  registry : Registry
  bindings : Variables
  simulation : Simulation

/-- What a load did. -/
structure LoadSummary where
  /-- Bodies put into the world. -/
  committed : Nat
  /-- Entries that could not be built. -/
  dropped : Nat
  /-- Bodies that were built without an identity. -/
  discarded : Nat
  /-- Names bound by the load. -/
  bound : Nat
  diagnostics : Nat
  camera : Option Camera
  /-- Whether the scene had a list of bodies. -/
  replaced : Bool

namespace LoadSummary

/-- The text of a report. -/
def chars (report : LoadSummary) : List Char :=
  Json.objectChars
    [("committed", Decimal.digitChars report.committed),
      ("dropped_specs", Decimal.digitChars report.dropped),
      ("discarded_bodies", Decimal.digitChars report.discarded),
      ("bound_names", Decimal.digitChars report.bound),
      ("compiler_errors", Decimal.digitChars report.diagnostics),
      ("camera", (report.camera.map Camera.chars).getD (Json.chars .null)),
      ("replaced_bodies", Json.booleanChars report.replaced)]

end LoadSummary

/-- The place in a batch of a body that is built outside any batch. -/
def unbatched : Int := -1

/-- The bodies of a scene while they are built. -/
structure Casting where
  world : World
  bindings : Variables
  /-- Bodies with an identity, in order. -/
  batch : List Handle
  dropped : Nat
  discarded : Nat

namespace Casting

/-- Nothing built yet. -/
def start (world : World) : Casting :=
  { world, bindings := .empty, batch := [], dropped := 0, discarded := 0 }

/-- Keeps a new body, under its name if it has one, and batches it if it has an identity. -/
def enter (casting : Casting) (name : Option String) (builder : Builder Body) : Casting :=
  let (body, nextId) := builder casting.world.nextId
  let (handle, world) := { casting.world with nextId }.keep body
  let bindings :=
    match name with
    | some name => casting.bindings.insert name handle
    | none => casting.bindings
  if body.id.isSome then
    { casting with world, bindings, batch := casting.batch ++ [handle] }
  else { casting with world, bindings, discarded := casting.discarded + 1 }

/-- Builds the body of one entry, or drops the entry. -/
def addEntry (factoryOf : String → Factory) (casting : Casting) (entry : SceneEntry) : Casting :=
  match entry.valid? with
  | none => { casting with dropped := casting.dropped + 1 }
  | some valid =>
      casting.enter valid.plan.name
        ((factoryOf valid.shape).build valid.plan.options valid.position unbatched)

/-- Builds the bodies of a list of entries. -/
def ofEntries (factoryOf : String → Factory) (world : World) (entries : List SceneEntry) :
    Casting :=
  entries.foldl (addEntry factoryOf) (start world)

end Casting

namespace Playfield

/-- A playfield with the built-in shapes. -/
def new (simulation : Simulation) : Playfield :=
  { registry := .standard, bindings := .empty, simulation }

/-- Adds or replaces a shape. -/
def register (playfield : Playfield) (name : String) (factory : Factory) : Playfield :=
  { playfield with registry := playfield.registry.register name factory }

/-- The body of a name. -/
def named? (playfield : Playfield) (name : String) : Option Body :=
  (playfield.bindings.find? name).bind playfield.simulation.world.body?

/-- The named bodies as they are now, in the order of their names. -/
def namedBodies (playfield : Playfield) : List (String × Body) :=
  playfield.bindings.entries.filterMap fun entry =>
    (playfield.simulation.world.body? entry.2).map (entry.1, ·)

/-- Does an action on the simulation. -/
def onSimulation {α : Type} (action : Action Simulation α) : Action Playfield α :=
  action.onPart simulation fun playfield simulation => { playfield with simulation }

/-- An extent if it is given and not zero, else the default. -/
def extentOr (extent : Option Float32) : Float32 :=
  (extent.filter fun value => !(value == 0)).getD Camera.defaultExtent

/-- The region that shows a world of an extent. -/
def cameraOf (extent : WorldExtent) : Camera :=
  .ofSize (extentOr extent.width) (extentOr extent.height)

/-- Loads a scene. It fails only if the simulation is disposed. -/
def load (scene : Scene) : Action Playfield LoadSummary := do
  onSimulation (Simulation.requireLive "load")
  if let some extent := scene.world then
    onSimulation (Simulation.modifySurface (·.lookAt (cameraOf extent)))
  let surface ← onSimulation Simulation.liveSurface
  let report : LoadSummary :=
    { committed := 0, dropped := 0, discarded := 0, bound := 0
      diagnostics := scene.diagnosticCount, camera := some surface.camera, replaced := false }
  match scene.bodies with
  | none => pure report
  | some entries => do
      let world ← onSimulation Simulation.liveWorld
      let registry := (← get).registry
      let casting := Casting.ofEntries (registry.resolve scene.overrides) world entries
      modify fun playfield => { playfield with bindings := casting.bindings }
      onSimulation (Simulation.modifyWorld fun _ => casting.world.clear.add casting.batch)
      onSimulation Simulation.ready
      pure { report with
        committed := casting.batch.length
        dropped := casting.dropped
        discarded := casting.discarded
        bound := casting.bindings.size
        replaced := true }

end Playfield

end PhysicsScene
