import PhysicsScene.Proofs.Shape.Plain
import PhysicsScene.Proofs.Stage.Outcome

/-!
# Templates as macros

A scene whose overrides are templates says nothing that a scene without overrides could not say. A
plan whose shape has a template stands for a plan of the built-in shape under the template, with the
options of the template filling what the plan does not give. `Scene.expanded` writes such plans out
and drops the overrides. On a registry that keeps the built-in shapes both scenes cast the same
bodies, because an expanded plan resolves to the very shape that the template would have placed.

An empty shape is the exception. No entry with an empty shape is ever built, also if the table has a
template under the empty name, whereas writing that template out would give the entry a shape.
-/

namespace PhysicsScene

namespace Overrides

/-- All overrides of the table are templates. -/
def AreTemplates (table : Overrides) : Prop :=
  ∀ name factory, table.find? name = some factory → ∃ pattern, factory = .template pattern

theorem areTemplates_empty : AreTemplates .empty := by
  intro name factory found
  cases found

theorem AreTemplates.insert {table : Overrides} (templates : table.AreTemplates) (name : String)
    (pattern : Template) : AreTemplates (Dictionary.insert table name (.template pattern)) := by
  intro other factory found
  rw [Dictionary.find?_insert] at found
  split at found
  · cases found
    exact ⟨pattern, rfl⟩
  · exact templates other factory found

/-- The template under a name. -/
def template? (table : Overrides) (name : String) : Option Template :=
  match table.find? name with
  | some (.template pattern) => some pattern
  | _ => none

theorem AreTemplates.template?_eq_none_iff {table : Overrides} (templates : table.AreTemplates)
    (name : String) : table.template? name = none ↔ table.find? name = none := by
  cases found : table.find? name with
  | none => simp [template?, found]
  | some factory =>
      rcases templates name factory found with ⟨pattern, rfl⟩
      simp [template?, found]

theorem find?_of_template? {table : Overrides} {name : String} {pattern : Template}
    (found : table.template? name = some pattern) :
    table.find? name = some (.template pattern) := by
  simp only [template?] at found
  split at found
  · next other isOther =>
    cases found
    exact isOther
  · cases found

end Overrides

namespace Registry

/-- The built-in shapes are registered under their own names. -/
def KeepsStandard (registry : Registry) : Prop :=
  ∀ shape : StandardShape, registry.factories.find? shape.name = some (.standard shape)

theorem KeepsStandard.resolve_none {registry : Registry} (keeps : registry.KeepsStandard)
    (shape : StandardShape) : registry.resolve none shape.name = .standard shape := by
  simp [resolve, keeps shape]

theorem keepsStandard_standard : standard.KeepsStandard := by
  intro shape
  cases shape <;> rfl

end Registry

theorem StandardShape.name_ne_empty (shape : StandardShape) : shape.name ≠ "" := by
  cases shape <;> decide

namespace BodyPlan

/-- The plan in which a template is written out. -/
def expandBy (plan : BodyPlan) (pattern : Template) : BodyPlan :=
  { plan with shape := some pattern.shape.name, options := plan.options.overlay pattern.defaults }

/-- The plan in which its template is written out, if its shape has one and is to be replaced. -/
def expand (table : Overrides) (replaced : String → Bool) (plan : BodyPlan) : BodyPlan :=
  match plan.shape with
  | some shape =>
      if replaced shape then ((table.template? shape).map plan.expandBy).getD plan else plan
  | none => plan

end BodyPlan

/-- An entry can be built under any shape but the empty one. -/
def SceneEntry.isBuildable (shape : String) : Bool := shape ≠ ""

/-- The entry in which a template is written out. -/
def SceneEntry.expand (table : Overrides) (replaced : String → Bool) : SceneEntry → SceneEntry
  | .plan found => .plan (found.expand table replaced)
  | .malformed value => .malformed value

/-- The scene without overrides in which all templates of replaced shapes are written out. -/
def Scene.expanded (scene : Scene) (replaced : String → Bool) : Scene :=
  { scene with
    bodies := scene.bodies.map (·.map (.expand (scene.overrides.getD .empty) replaced))
    overrides := none }

section Expand

variable {registry : Registry} {table : Overrides} (keeps : registry.KeepsStandard)
  (templates : table.AreTemplates)

theorem BodyPlan.expand_of_template? {plan : BodyPlan} {shape : String} {pattern : Template}
    (isShape : plan.shape = some shape) (named : shape ≠ "")
    (found : table.template? shape = some pattern) :
    plan.expand table SceneEntry.isBuildable = plan.expandBy pattern := by
  simp [expand, isShape, SceneEntry.isBuildable, named, found]

/-- A plan without a template stays what it is. -/
theorem BodyPlan.expand_of_none {plan : BodyPlan} {shape : String}
    (isShape : plan.shape = some shape) (missing : table.template? shape = none) :
    plan.expand table SceneEntry.isBuildable = plan := by
  simp [expand, isShape, missing]

theorem SceneEntry.expand_of_not_valid {entry : SceneEntry} (invalid : entry.valid? = none) :
    (entry.expand table SceneEntry.isBuildable).valid? = none := by
  cases entry with
  | malformed value => rfl
  | plan found =>
      cases isShape : found.shape with
      | none =>
          have same : found.expand table SceneEntry.isBuildable = found := by
            simp [BodyPlan.expand, isShape]
          simpa only [SceneEntry.expand, same]
      | some shape =>
          by_cases named : shape = ""
          · have same : found.expand table SceneEntry.isBuildable = found := by
              simp [BodyPlan.expand, isShape, SceneEntry.isBuildable, named]
            simpa only [SceneEntry.expand, same]
          · -- The shape is not what is missing, and an expansion gives no position.
            have unplaced : found.position = none := by
              cases place : found.position with
              | none => rfl
              | some position =>
                  simp [SceneEntry.valid?, isShape, place, named] at invalid
            cases template : table.template? shape with
            | none => simpa [SceneEntry.expand, BodyPlan.expand_of_none isShape template]
            | some pattern =>
                simp [SceneEntry.expand, BodyPlan.expand_of_template? isShape named template,
                  BodyPlan.expandBy, SceneEntry.valid?, unplaced]

include keeps templates

/-- An expanded entry is cast as the entry is cast with the templates at hand. -/
theorem Casting.addEntry_expand (casting : Casting) (entry : SceneEntry) :
    casting.addEntry (registry.resolve none) (entry.expand table SceneEntry.isBuildable) =
      casting.addEntry (registry.resolve (some table)) entry := by
  cases asked : entry.valid? with
  | none => simp only [addEntry, asked, SceneEntry.expand_of_not_valid asked]
  | some valid =>
      rcases valid with ⟨plan, shape, position⟩
      rcases (entry.valid?_eq_some_iff _).1 asked with ⟨rfl, isShape, named, isPlaced⟩
      simp only at isShape named isPlaced
      cases found : table.template? shape with
      | none =>
          have missing : table.find? shape = none :=
            (templates.template?_eq_none_iff shape).1 found
          have same : registry.resolve (some table) shape = registry.resolve none shape := by
            simp [registry.resolve_eq (some table), missing]
          simp only [SceneEntry.expand, BodyPlan.expand_of_none isShape found, addEntry, asked,
            same]
      | some pattern =>
          have here : registry.resolve (some table) shape = .template pattern := by
            simp [registry.resolve_eq (some table), Overrides.find?_of_template? found]
          have expanded : (SceneEntry.plan (plan.expandBy pattern)).valid? =
              some ⟨plan.expandBy pattern, pattern.shape.name, position⟩ :=
            (SceneEntry.valid?_eq_some_iff _ _).2
              ⟨rfl, rfl, pattern.shape.name_ne_empty, isPlaced⟩
          simp only [SceneEntry.expand, BodyPlan.expand_of_template? isShape named found, addEntry,
            asked, expanded, here, keeps.resolve_none]
          rfl

theorem Casting.ofEntries_expand (world : World) (entries : List SceneEntry) :
    ofEntries (registry.resolve none) world (entries.map (.expand table SceneEntry.isBuildable)) =
      ofEntries (registry.resolve (some table)) world entries := by
  rw [ofEntries, ofEntries, List.foldl_map]
  congr 1
  funext casting entry
  exact casting.addEntry_expand keeps templates entry

end Expand

section Loaded

variable {playfield : Playfield} {scene : Scene} (keeps : playfield.registry.KeepsStandard)
  (templates : ∀ table ∈ scene.overrides, table.AreTemplates)

include keeps templates

theorem Playfield.casting_expanded (entries : List SceneEntry) :
    playfield.casting (scene.expanded SceneEntry.isBuildable)
        (entries.map (.expand (scene.overrides.getD .empty) SceneEntry.isBuildable)) =
      playfield.casting scene entries := by
  cases brings : scene.overrides with
  | some table =>
      have areTemplates : table.AreTemplates := templates table (by simp [brings])
      simp only [casting, Scene.expanded, brings, Option.getD_some]
      exact Casting.ofEntries_expand keeps areTemplates _ entries
  | none =>
      -- Without overrides there is nothing to write out.
      have same : playfield.registry.resolve (some .empty) = playfield.registry.resolve none := by
        funext name
        simp [playfield.registry.resolve_eq (some .empty)]
      simp only [casting, Scene.expanded, brings, Option.getD_none]
      rw [Casting.ofEntries_expand keeps Overrides.areTemplates_empty, same]

theorem Playfield.loaded_expanded :
    playfield.loaded (scene.expanded SceneEntry.isBuildable) = playfield.loaded scene := by
  have casts := casting_expanded keeps templates
  cases listed : scene.bodies with
  | none => simp [loaded, Scene.expanded, listed]
  | some entries =>
      have list : (scene.expanded SceneEntry.isBuildable).bodies =
          some (entries.map (.expand (scene.overrides.getD .empty) SceneEntry.isBuildable)) := by
        simp [Scene.expanded, listed]
      simp only [loaded, list, listed, casts]
      rfl

theorem Playfield.summary_expanded :
    playfield.summary (scene.expanded SceneEntry.isBuildable) = playfield.summary scene := by
  have casts := casting_expanded keeps templates
  cases listed : scene.bodies with
  | none => simp [summary, Scene.expanded, listed, Scene.diagnosticCount]
  | some entries =>
      have list : (scene.expanded SceneEntry.isBuildable).bodies =
          some (entries.map (.expand (scene.overrides.getD .empty) SceneEntry.isBuildable)) := by
        simp [Scene.expanded, listed]
      simp only [summary, list, listed, casts]
      rfl

end Loaded

namespace Stage

/-- A live stage that keeps the built-in shapes loads a scene of templates exactly as it loads the
scene in which the templates of all shapes that are not empty are written out. -/
theorem load_expanded {stage : Stage} {scene : Scene} (live : stage.isDisposed = false)
    (keeps : stage.playfield.registry.KeepsStandard)
    (templates : ∀ table ∈ scene.overrides, table.AreTemplates) :
    ∃ report after, (load scene).outcome stage = (.ok report, after) ∧
      (load (scene.expanded SceneEntry.isBuildable)).outcome stage = (.ok report, after) := by
  refine ⟨stage.playfield.summary scene, stage.loaded scene, ?_, ?_⟩
  · simp [outcome_load, live]
  · have report := Playfield.summary_expanded keeps templates
    have playfield := Playfield.loaded_expanded keeps templates
    simp [outcome_load, live, loaded, report, playfield]

/-- Templates may stand under built-in names and under the names of each other's bases; they are
written out once, on a stage with a shape of its own. -/
theorem load_expanded_shadowed :
    let round (radius : Float32) : Template := ⟨some "circle", { BodyOptions.none with radius }⟩
    let wide : Template := ⟨some "rectangle", { BodyOptions.none with width := some 40 }⟩
    let table : Overrides := ((Dictionary.empty.insert "rectangle" (.template (round 8))).insert
      "circle" (.template wide)).insert "unknown" (.template (.mk (some "circle ") .none))
    let entry (shape : String) : SceneEntry :=
      .plan
        { shape := some shape, position := some ⟨1, 2⟩, name := some shape
          options := { BodyOptions.none with width := some 0, height := some 6 } }
    let scene := { Scene.empty with
      bodies := some [entry "circle", entry "rectangle", entry "unknown", entry "peg", entry ""]
      overrides := some table }
    let stage := (new .default).register "peg" (.template (round 3))
    ∃ report after, (load scene).outcome stage = (.ok report, after) ∧
      (load (scene.expanded SceneEntry.isBuildable)).outcome stage = (.ok report, after) ∧
      report.dropped = 1 ∧
      after.simulation.world.memberBodies.map Body.geometry =
        [.rectangle 40 6, .circle 8, .circle 25, .circle 3] := by
  intro round wide table entry scene stage
  have keeps : stage.playfield.registry.KeepsStandard := by
    intro shape
    cases shape <;> rfl
  have templates : ∀ brought ∈ scene.overrides, Overrides.AreTemplates brought := by
    rintro brought ⟨⟩
    apply Overrides.AreTemplates.insert
    apply Overrides.AreTemplates.insert
    apply Overrides.AreTemplates.insert
    exact Overrides.areTemplates_empty
  rcases load_expanded rfl keeps templates with ⟨report, after, outcome, expanded⟩
  have computed : (load scene).outcome stage = (.ok (stage.playfield.summary scene),
      stage.loaded scene) := by
    rw [outcome_load]
    rfl
  cases outcome.symm.trans computed
  refine ⟨_, _, outcome, expanded, ?_, ?_⟩
  · decide +kernel
  · decide +kernel

/-- A template under the empty name covers no entry, so writing it out would build a body that the
scene itself does not build. -/
theorem load_expanded_empty_shape :
    let table : Overrides := Dictionary.empty.insert "" (.template ⟨none, .none⟩)
    let scene := { Scene.empty with
      bodies := some
        [.plan { shape := some "", position := some .zero, name := none, options := .none }]
      overrides := some table }
    let stage := new .default
    stage.isDisposed = false ∧ stage.playfield.registry.KeepsStandard ∧
      (∀ brought ∈ scene.overrides, Overrides.AreTemplates brought) ∧
      ((load scene).outcome stage).1.toOption.map LoadSummary.committed = some 0 ∧
      ((load (scene.expanded fun _ => true)).outcome stage).1.toOption.map
        LoadSummary.committed = some 1 := by
  intro table scene stage
  refine ⟨rfl, Registry.keepsStandard_standard, ?_, ?_, ?_⟩
  · rintro brought ⟨⟩
    exact Overrides.areTemplates_empty.insert "" _
  · rw [outcome_load]
    rfl
  · rw [outcome_load]
    rfl

end Stage

end PhysicsScene
