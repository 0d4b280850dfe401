import Mathlib.Data.List.ReduceOption
import PhysicsScene.Proofs.Scene.Meaning
import PhysicsScene.Proofs.Stage.Outcome

/-!
# From a list of bodies to the world

A document without shapes of its own is loaded into a live stage with the built-in shapes. Then the
world holds one body for each element that asks for one, in their order, and every element has been
dealt with in its turn: either its body was kept under the next handle and bound to its name, or it
was counted as dropped and left nothing else behind. A name that several bodies have is bound to
each in its turn and stays with the last.
-/

namespace PhysicsScene

namespace SceneEntry

variable {entries : List SceneEntry} {place : Nat} {entry : SceneEntry}

theorem take_succ_of_getElem? {α : Type} {items : List α} {item : α} {index : Nat}
    (here : items[index]? = some item) : items.take (index + 1) = items.take index ++ [item] := by
  rw [List.take_add_one, here, Option.toList_some]

theorem getElem?_validsOf (here : entries[place]? = some entry) {valid : Valid}
    (asked : entry.valid? = some valid) :
    (validsOf entries)[(validsOf (entries.take place)).length]? = some valid := by
  have whole : entries = entries.take place ++ [entry] ++ entries.drop (place + 1) := by
    rw [← take_succ_of_getElem? here, List.take_append_drop]
  have split : validsOf entries =
      validsOf (entries.take place) ++ [valid] ++ validsOf (entries.drop (place + 1)) := by
    have parts := congrArg validsOf whole
    rw [parts]
    simp [validsOf, asked]
  rw [split]
  simp

theorem reduceOption_map_cast? (elements : List Json) :
    (elements.map cast?).reduceOption =
      (validsOf (elements.map ofJson)).map fun valid =>
        (valid.plan.name, Casting.formOf (Registry.standard.resolve none) valid) := by
  simp only [List.reduceOption, validsOf, List.filterMap_map, List.map_filterMap]
  rfl

theorem length_reduceOption_take (elements : List Json) (place : Nat) :
    ((elements.map cast?).take place).reduceOption.length =
      (validsOf ((elements.map ofJson).take place)).length := by
  rw [← List.map_take, ← List.map_take, reduceOption_map_cast?, List.length_map]

theorem countP_isNone_add (elements : List Json) :
    (elements.map cast?).countP Option.isNone +
      (validsOf (elements.map ofJson)).length = elements.length := by
  induction elements with
  | nil => rfl
  | cons value rest ih =>
      cases asked : (ofJson value).valid? with
      | none =>
          simp only [List.map_cons, validsOf, List.filterMap_cons, cast?, asked, Option.map_none,
            List.countP_cons, Option.isNone_none, if_true, List.length_cons] at ih ⊢
          omega
      | some valid =>
          simp only [List.map_cons, validsOf, List.filterMap_cons, cast?, asked, Option.map_some,
            List.countP_cons, Option.isNone_some, Bool.false_eq_true, if_false,
            List.length_cons] at ih ⊢
          omega

end SceneEntry

namespace Casting

variable {factoryOf : String → Factory} {world : World} {entries : List SceneEntry} {place : Nat}
  {entry : SceneEntry}

theorem ofEntries_take_succ (here : entries[place]? = some entry) :
    ofEntries factoryOf world (entries.take (place + 1)) =
      (ofEntries factoryOf world (entries.take place)).addEntry factoryOf entry := by
  rw [SceneEntry.take_succ_of_getElem? here, ofEntries, List.foldl_append]
  rfl

/-- In the turn of a valid entry its name is bound to the next handle. -/
theorem find?_ofEntries_take_succ (here : entries[place]? = some entry) {valid : SceneEntry.Valid}
    (asked : entry.valid? = some valid) {name : String} (named : valid.plan.name = some name) :
    (ofEntries factoryOf world (entries.take (place + 1))).bindings.find? name =
      some ⟨world.bodies.size + (SceneEntry.validsOf (entries.take place)).length⟩ := by
  apply ((covers_ofEntries factoryOf world _).bindings_iff _ _).2
  refine ⟨_, rfl, ?_⟩
  rw [SceneEntry.take_succ_of_getElem? here, SceneEntry.validsOf_concat, asked, Option.toList_some,
    List.map_append, List.map_singleton, named]
  exact (lastAt_concat_self _ _ _).2 (by simp)

end Casting

namespace Playfield

/-- A load deals with the elements of a list of bodies one by one. -/
structure Populates (before : Playfield) (scene : Scene) (entries : List SceneEntry)
    (found : List (Option (Option String × Body))) (report : LoadSummary) (after : Playfield) :
    Prop where
  committed_eq : report.committed = found.reduceOption.length
  dropped_eq : report.dropped = found.countP Option.isNone
  discarded_eq : report.discarded = 0
  /-- The world holds the bodies in order, under consecutive identities, and nothing else. -/
  memberBodies_eq : after.simulation.world.memberBodies =
    Casting.number before.simulation.world.nextId (found.reduceOption.map (·.2))
  members_eq : after.simulation.world.members =
    (List.range found.reduceOption.length).map before.builtHandle
  /-- The body of an element stands behind the next handle, which its name is bound to. -/
  body_at : ∀ place name body, found[place]? = some (some (name, body)) →
    let index := (found.take place).reduceOption.length
    after.simulation.world.body? (before.builtHandle index) =
        some (body.withId (before.simulation.world.nextId + UInt64.ofNat index)) ∧
      ∀ bound, name = some bound →
        (before.casting scene (entries.take (place + 1))).bindings.find? bound =
          some (before.builtHandle index)
  /-- An element without a body is counted, and nothing else comes of it. -/
  nothing_at : ∀ place, found[place]? = some none →
    let earlier := before.casting scene (entries.take place)
    before.casting scene (entries.take (place + 1)) =
      { earlier with dropped := earlier.dropped + 1 }
  /-- In the end a name belongs to the last body that has it. -/
  bindings_iff : ∀ name handle, after.bindings.find? name = some handle ↔
    ∃ index, handle = before.builtHandle index ∧
      LastAt (found.reduceOption.map (·.1)) name index

section Loaded

variable {before : Playfield} {scene : Scene} (standard : before.registry = .standard)
  (noOverrides : ∀ table ∈ scene.overrides, table = .empty)

include standard noOverrides

theorem resolve_eq_standard :
    before.registry.resolve scene.overrides = Registry.standard.resolve none := by
  funext name
  rw [standard, Registry.resolve_eq _ scene.overrides]
  cases brings : scene.overrides with
  | none => rfl
  | some table => rw [noOverrides table (by simp [brings]), Option.bind_some,
      Dictionary.find?_empty, Option.getD_none]

theorem castsPlain_of_standard : before.CastsPlain scene := by
  intro name
  rw [resolve_eq_standard standard noOverrides]
  exact Registry.isPlain_resolve_none Registry.arePlain_standard name

theorem populates_loaded {elements : List Json}
    (listed : scene.bodies = some (elements.map SceneEntry.ofJson)) :
    Populates before scene (elements.map SceneEntry.ofJson) (elements.map SceneEntry.cast?)
      (before.summary scene) (before.loaded scene) := by
  have plain := castsPlain_of_standard standard noOverrides
  have resolve := resolve_eq_standard standard noOverrides
  have found := SceneEntry.reduceOption_map_cast? elements
  have count : (elements.map SceneEntry.cast?).reduceOption.length =
      (SceneEntry.validsOf (elements.map SceneEntry.ofJson)).length := by
    rw [found, List.length_map]
  have numbered : before.numbered scene (elements.map SceneEntry.ofJson) =
      Casting.number before.simulation.world.nextId
        ((elements.map SceneEntry.cast?).reduceOption.map (·.2)) := by
    rw [numbered, forms, resolve, found, List.map_map]
    rfl
  have summary := summary_of_plain plain listed
  refine ⟨?_, ?_, ?_, ?_, ?_, ?_, ?_, ?_⟩
  · rw [summary, count]
  · have total := SceneEntry.countP_isNone_add elements
    rw [summary, List.length_map]
    simp only
    omega
  · rw [summary]
  · rw [loaded_memberBodies_of_plain plain listed, numbered]
  · rw [loaded_members_of_plain plain listed, count, List.range'_eq_map_range, List.map_map]
    rfl
  · intro place name body here
    rw [List.getElem?_map, Option.map_eq_some_iff] at here
    rcases here with ⟨value, isValue, isCast⟩
    rcases Option.map_eq_some_iff.1 isCast with ⟨valid, asked, isBody⟩
    cases isBody
    have isEntry : (elements.map SceneEntry.ofJson)[place]? = some (.ofJson value) := by
      rw [List.getElem?_map, isValue, Option.map_some]
    have isValid := SceneEntry.getElem?_validsOf isEntry asked
    rw [SceneEntry.length_reduceOption_take]
    constructor
    · rw [body?_loaded listed, built_of_plain plain, Playfield.numbered, Casting.getElem?_number,
        forms, List.getElem?_map, isValid, resolve]
      rfl
    · intro bound named
      exact Casting.find?_ofEntries_take_succ isEntry asked named
  · intro place here earlier
    rw [List.getElem?_map, Option.map_eq_some_iff] at here
    rcases here with ⟨value, isValue, isCast⟩
    have isEntry : (elements.map SceneEntry.ofJson)[place]? = some (.ofJson value) := by
      rw [List.getElem?_map, isValue, Option.map_some]
    have dropped : (SceneEntry.ofJson value).valid? = none := Option.map_eq_none_iff.1 isCast
    rw [casting, Casting.ofEntries_take_succ isEntry, Casting.addEntry, dropped]
    rfl
  · intro name handle
    rw [loaded_bindings_iff before listed, found, List.map_map]
    rfl

end Loaded

end Playfield

namespace Stage

/-- The bodies of a document are what its elements ask for, one by one. -/
theorem load_populates {stage : Stage} (live : stage.isDisposed = false)
    (standard : stage.playfield.registry = .standard) {document : Json}
    (generic : document.IsCanonical) {scene : Scene}
    (decoded : Scene.decoder.ofJson? document = some scene)
    (noOverrides : ∀ table ∈ scene.overrides, table = .empty)
    {parts : List (String × Json)} (isParts : Json.Members Scene.partNames document parts)
    {elements : List Json} (listed : parts.lookup "bodies" = some (.array elements)) :
    ∃ found report after, List.Forall₂ SceneEntry.Comes elements found ∧
      (load scene).outcome stage = (.ok report, after) ∧
      stage.playfield.Populates scene (elements.map SceneEntry.ofJson) found report
        after.playfield := by
  rcases Scene.exists_holds generic decoded with ⟨others, isOthers, holds⟩
  cases isParts.unique isOthers
  have bodies : scene.bodies = some (elements.map SceneEntry.ofJson) := by
    rw [holds.bodies, listed]
    rfl
  refine ⟨elements.map SceneEntry.cast?, stage.playfield.summary scene, stage.loaded scene, ?_, ?_,
    Playfield.populates_loaded standard noOverrides bodies⟩
  · rw [List.forall₂_map_right_iff, List.forall₂_same]
    intro value member
    have array : Json.IsCanonical (.array elements) :=
      Scene.members_lookup_isCanonical generic isParts listed
    exact SceneEntry.comes_cast? (array.element member)
  · simp [outcome_load, live]

/-- Two of these elements ask for a body. The first is a rectangle at a place that has to be
rounded, with a height that is `null`. The second has a width that comes to zero and a radius that
is no number. Both have one name. -/
theorem load_populates_twins :
    let whole (value : Fin 20000000) : Json := .number (.integer value.val (by
      unfold Number.InRange
      omega))
    let tenth : Json := .number (.real 0.1 (by decide +kernel))
    let tiny : Json := .number (.real 1e-60 (by decide +kernel))
    let elements : List Json :=
      [.object [("friction", whole 1), ("height", .null), ("name", .text "twin"),
          ("position", .array [whole 16777217, tenth]), ("shape", .text "rectangle"),
          ("width", whole 7)],
        .object [("position", .array [whole 3]), ("shape", .text "circle")],
        whole 5,
        .object [("name", .text "twin"), ("position", .object [("x", whole 0), ("y", whole 1)]),
          ("radius", .text "wide"), ("shape", .text "disc"), ("width", tiny)]]
    let document : Json := .object [("bodies", .array elements)]
    let stage := new .default
    ∃ scene found report after, Scene.decoder.ofJson? document = some scene ∧
      List.Forall₂ SceneEntry.Comes elements found ∧
      (load scene).outcome stage = (.ok report, after) ∧
      stage.playfield.Populates scene (elements.map SceneEntry.ofJson) found report
        after.playfield ∧
      report.committed = 2 ∧ report.dropped = 2 ∧
      after.simulation.world.memberBodies.map
          (fun body => (body.id, body.geometry, body.position, body.properties.entries.map (·.1))) =
        [(some ⟨1⟩, .rectangle 7 100, ⟨16777216, 0.1⟩, ["friction"]),
          (some ⟨2⟩, .circle 25, ⟨0, 1⟩, ["radius"])] ∧
      after.playfield.bindings.find? "twin" = some ⟨1⟩ := by
  intro whole tenth tiny elements document stage
  have live : stage.isDisposed = false := rfl
  have standard : stage.playfield.registry = .standard := rfl
  have generic : document.IsCanonical := by rfl
  have decodes : (Scene.decoder.ofJson? document).isSome := by rfl
  rcases Option.isSome_iff_exists.1 decodes with ⟨scene, decoded⟩
  have noOverrides : ∀ table ∈ scene.overrides, table = .empty := by
    have none : (Scene.decoder.ofJson? document).bind Scene.overrides = none := by rfl
    rw [decoded, Option.bind_some] at none
    simp [none]
  rcases load_populates live standard generic decoded noOverrides
    (.object [("bodies", .array elements)]) rfl with
    ⟨found, report, after, comes, outcome, populates⟩
  have counts : (Scene.decoder.ofJson? document).map
      (fun scene => ((stage.playfield.summary scene).committed,
        (stage.playfield.summary scene).dropped)) = some (2, 2) := by
    decide +kernel
  have bodies : (Scene.decoder.ofJson? document).map
      (fun scene => (stage.loaded scene).simulation.world.memberBodies.map fun body =>
        (body.id, body.geometry, body.position, body.properties.entries.map (·.1))) =
      some [(some ⟨1⟩, .rectangle 7 100, ⟨16777216, 0.1⟩, ["friction"]),
        (some ⟨2⟩, .circle 25, ⟨0, 1⟩, ["radius"])] := by
    decide +kernel
  have bound : (Scene.decoder.ofJson? document).map
      (fun scene => (stage.loaded scene).playfield.bindings.find? "twin") = some (some ⟨1⟩) := by
    decide +kernel
  have reported : (load scene).outcome stage =
      (.ok (stage.playfield.summary scene), stage.loaded scene) := by
    rw [outcome_load]
    rfl
  cases outcome.symm.trans reported
  rw [decoded, Option.map_some, Option.some.injEq] at counts bodies bound
  rw [Prod.mk.injEq] at counts
  exact ⟨scene, found, _, _, decoded, comes, outcome, populates, counts.1, counts.2, bodies, bound⟩

end Stage

end PhysicsScene
