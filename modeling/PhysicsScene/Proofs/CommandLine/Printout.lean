import Mathlib.Data.List.Nodup
import PhysicsScene.Proofs.CommandLine.Line
import PhysicsScene.Proofs.CommandLine.Routes
import PhysicsScene.Proofs.Json.Spelling
import PhysicsScene.Proofs.Stage.Names
import PhysicsScene.Proofs.Stage.Report
import PhysicsScene.Proofs.Stage.Steps
import PhysicsScene.Proofs.Text.ByteOrder

/-!
# What a run prints

A scene file that can be decoded is always loaded, and no beat after it is refused: the world takes
the steps that were asked for. Then there is a line for every name of the scene, in the order of the
bytes of the names, with the place to which the last valid entry of the name has come by itself. The
order in which the names are kept has no part in it: sorted by their bytes, they always come out as
they are printed (`CommandLine.Places`).
-/

namespace PhysicsScene

namespace Scene

/-- Where the last valid entry with a name is after some steps by itself. -/
inductive EndsAt (scene : Scene) (settings : Settings) (steps : Nat) (name : String) :
    Vector2 → Prop
  | intro {index : Nat} {valid : SceneEntry.Valid} {drag : Option Float32}
      (last : LastAt (scene.valids.map (·.plan.name)) name index)
      (here : scene.valids[index]? = some valid)
      (isDrag : (scene.formOf valid).properties.IsDrag drag) :
      EndsAt scene settings steps name
        ((Motion.rest valid.position).stepped settings.gravity drag settings.timeStep
          steps).position

end Scene

namespace CommandLine

/-- The bytes of the first name do not come after those of the second. -/
def sortsBefore (first second : String × Vector2) : Bool :=
  !decide (Utf8.encode second.1 < Utf8.encode first.1)

theorem sortsBefore_iff (first second : String × Vector2) :
    sortsBefore first second = true ↔ first.1 ≤ second.1 := by
  rw [sortsBefore, Bool.not_eq_true', decide_eq_false_iff_not, Utf8.encode_lt_iff, String.not_lt]

/-- The names of a scene with the places at which they are printed. -/
structure Places (settings : Settings) (scene : Scene) (steps : Nat)
    (placed : List (String × Vector2)) : Prop where
  /-- The valid entries are those with a shape that is not empty, and with a position. -/
  valid_iff : ∀ entry valid, SceneEntry.valid? entry = some valid ↔ entry.Asks valid
  /-- The names strictly increase by their bytes, so that none comes twice. -/
  ordered : placed.Pairwise fun first second => Utf8.encode first.1 < Utf8.encode second.1
  /-- They are the names of the valid entries. -/
  named_iff : ∀ name, name ∈ placed.map (·.1) ↔ ∃ valid ∈ scene.valids, valid.plan.name = some name
  endsAt : ∀ name position, (name, position) ∈ placed →
    scene.EndsAt settings steps name position
  /-- In whatever order the names are found, sorting them by their bytes leads to this list. -/
  sorted : ∀ found : List (String × Vector2), found.Perm placed →
    found.mergeSort sortsBefore = placed

/-- The beats of a run, from the load to the end. -/
structure Beats (settings : Settings) (loaded : Stage) (steps : Nat) (ended : Stage) : Prop where
  start_eq : Stage.start.outcome loaded = (.ok (), loaded.after .start)
  /-- Every beat is a step. -/
  answer_eq : ∀ done < steps,
    ((loaded.after .start).run (.replicate done .tick)).answer .tick = .ok (.stepped true)
  tickTimes_eq : tickTimes steps (loaded.after .start) = .ok ended
  /-- The world has taken as many steps of the duration of the settings, and no other. -/
  world_eq : ended.simulation.world = loaded.simulation.world.stepped settings.timeStep steps

/-- A list in strict order of names is what sorting makes of any arrangement of it. -/
theorem mergeSort_eq_of_perm {placed found : List (String × Vector2)}
    (ordered : placed.Pairwise fun first second => first.1 < second.1)
    (arranged : found.Perm placed) : found.mergeSort sortsBefore = placed := by
  have distinct : (placed.map (·.1)).Nodup :=
    List.pairwise_map.2 (ordered.imp String.ne_of_lt)
  have sorted : (found.mergeSort sortsBefore).Pairwise fun first second =>
      sortsBefore first second = true := by
    apply List.pairwise_mergeSort
    · simp only [sortsBefore_iff]
      intro first second third
      exact String.le_trans
    · simp only [Bool.or_eq_true, sortsBefore_iff]
      intro first second
      exact String.le_total first.1 second.1
  have isPerm : (found.mergeSort sortsBefore).Perm placed :=
    (List.mergeSort_perm found _).trans arranged
  refine List.Perm.eq_of_pairwise ?_ sorted ?_ isPerm
  · intro first second inSorted inPlaced below above
    rw [sortsBefore_iff] at below above
    exact List.inj_on_of_nodup_map distinct (isPerm.mem_iff.1 inSorted) inPlaced
      (String.le_antisymm below above)
  · refine ordered.imp ?_
    intro first second below
    exact (sortsBefore_iff first second).2 (Std.le_of_lt below)

section Beats

variable {loaded : Stage} (live : loaded.isDisposed = false)

include live

theorem after_start_eq : loaded.after .start = loaded.mapSimulation (·.started) :=
  Stage.after_of_live live .start

theorem phase_start : (loaded.after .start).simulation.phase = .running := by
  rw [after_start_eq live]
  exact Simulation.phase_started (of_decide_eq_false live)

theorem world_start : (loaded.after .start).simulation.world = loaded.simulation.world := by
  rw [after_start_eq live]
  exact Simulation.world_started _

theorem playfield_start :
    (loaded.after .start).settings = loaded.settings ∧
      (loaded.after .start).playfield.bindings = loaded.playfield.bindings ∧
        ∀ name, (loaded.after .start).playfield.named? name = loaded.playfield.named? name := by
  rw [after_start_eq live]
  refine ⟨rfl, rfl, ?_⟩
  intro name
  simp only [Playfield.named?, Stage.mapSimulation, Simulation.world_started]

variable (coherent : loaded.Coherent)

include coherent

/-- What the beats of a run do to the world and to the names. -/
theorem advances_start (steps : Nat) :
    (loaded.after .start).Advances steps
      (loaded.run (.start :: .replicate steps .tick)) :=
  (coherent.after .start).advances_run (phase_start live) steps

theorem beats_run (steps : Nat) :
    Beats loaded.settings loaded steps (loaded.run (.start :: .replicate steps .tick)) where
  start_eq := outcome_start_of_live live
  answer_eq := by
    intro done _
    have reached := (advances_start live coherent done).phase_eq
    rw [Stage.answer_tick]
    exact ((coherent.run (.start :: .replicate done .tick)).answer_tickBy_iff _).2 reached
  tickTimes_eq := by
    apply tickTimes_of_live
    simp [Stage.isDisposed, Simulation.isDisposed, phase_start live]
  world_eq := by
    rw [(advances_start live coherent steps).world_eq, world_start live, (playfield_start live).1]

end Beats

section Run

variable (settings : Settings) {scene : Scene} (plain : scene.IsPlain) (steps : Nat)

/-- The stage at the end of a run, when the names are printed. -/
def endOfRun (settings : Settings) (scene : Scene) (steps : Nat) : Stage :=
  ((Stage.new settings).loaded scene).run (.start :: .replicate steps .tick)

/-- The names at the end of a run, with their places. -/
def placedAt (stage : Stage) : List (String × Vector2) :=
  stage.playfield.namedBodies.map fun named => (named.1, named.2.position)

theorem bodyLines_eq (stage : Stage) :
    bodyLines stage =
      String.join ((placedAt stage).map fun named => bodyLine named.1 named.2) := by
  rw [bodyLines, placedAt, List.map_map]
  rfl

include plain

/-- Each named body has taken all steps of the run by itself. -/
theorem named?_endOfRun (name : String) :
    (endOfRun settings scene steps).playfield.named? name =
      (((Stage.new settings).loaded scene).playfield.named? name).map
        (·.travel settings.gravity (.replicate steps settings.timeStep)) := by
  have fresh := Stage.coherent_new settings
  have live : ((Stage.new settings).loaded scene).isDisposed = false := isDisposed_loaded rfl scene
  have coherent : ((Stage.new settings).loaded scene).Coherent := fresh.loaded rfl scene
  have loads : (Stage.new settings).after (.load scene) = (Stage.new settings).loaded scene :=
    Stage.after_of_live rfl _
  have gravity : ((Stage.new settings).loaded scene).simulation.world.gravity = settings.gravity :=
    loads ▸ fresh.gravity_after (.load scene)
  rcases Stage.nodup_members_loaded settings plain with ⟨distinct, bound⟩
  rcases playfield_start live with ⟨sameSettings, sameBindings, sameNames⟩
  have advances := advances_start live coherent steps
  rw [← world_start live] at distinct bound gravity
  rw [← sameBindings] at bound
  rw [endOfRun, advances.named?_eq distinct bound, sameNames, gravity, sameSettings]
  rfl

theorem mem_placedAt_iff (name : String) (position : Vector2) :
    (name, position) ∈ placedAt (endOfRun settings scene steps) ↔
      scene.EndsAt settings steps name position := by
  have casts : (Stage.new settings).playfield.CastsPlain scene := Stage.castsPlain_new plain
  have moved : ∀ (valid : SceneEntry.Valid) index,
      (((scene.formOf valid).withId (1 + UInt64.ofNat index)).travel settings.gravity
        (.replicate steps settings.timeStep)).position =
          ((Motion.rest valid.position).stepped settings.gravity
            (scene.formOf valid).properties.drag settings.timeStep steps).position := by
    intro valid index
    have position : (scene.formOf valid).position = valid.position :=
      Casting.position_formOf casts valid
    have velocity : (scene.formOf valid).velocity = .zero := Casting.velocity_formOf casts valid
    have rests : ((scene.formOf valid).withId (1 + UInt64.ofNat index)).motion =
        .rest valid.position := congrArg₂ Motion.mk position velocity
    rw [Body.position_travel_replicate, rests]
    rfl
  simp only [placedAt, List.mem_map, Prod.mk.injEq]
  constructor
  · rintro ⟨⟨_, body⟩, isNamed, rfl, rfl⟩
    rw [Playfield.mem_namedBodies_iff, named?_endOfRun settings plain, Option.map_eq_some_iff]
      at isNamed
    rcases isNamed with ⟨first, isFirst, rfl⟩
    rcases (Stage.named?_loaded_iff plain _ first).1 isFirst with ⟨index, valid, last, here, rfl⟩
    rw [moved]
    exact .intro last here (Properties.isDrag_drag _)
  · intro ends
    cases ends with
    | @intro index valid drag last here isDrag =>
        rw [isDrag.unique (Properties.isDrag_drag _)]
        refine ⟨(name, ((scene.formOf valid).withId (1 + UInt64.ofNat index)).travel
          settings.gravity (.replicate steps settings.timeStep)), ?_, rfl, moved valid index⟩
        rw [Playfield.mem_namedBodies_iff, named?_endOfRun settings plain,
          (Stage.named?_loaded_iff plain name _).2 ⟨index, valid, last, here, rfl⟩]
        rfl

theorem places_endOfRun :
    Places settings scene steps (placedAt (endOfRun settings scene steps)) := by
  have ordered : (placedAt (endOfRun settings scene steps)).Pairwise fun first second =>
      first.1 < second.1 :=
    List.pairwise_map.2 (Playfield.ordered_namedBodies _)
  refine ⟨SceneEntry.valid?_eq_some_iff, ?_, ?_, ?_, ?_⟩
  · simpa only [Utf8.encode_lt_iff] using ordered
  · intro name
    have lastOf := exists_lastAt_iff (scene.valids.map (·.plan.name)) name
    rw [List.mem_map] at lastOf
    rw [← lastOf, List.mem_map]
    constructor
    · rintro ⟨⟨_, position⟩, isPlaced, rfl⟩
      cases (mem_placedAt_iff settings plain steps _ position).1 isPlaced with
      | intro last here isDrag => exact ⟨_, last⟩
    · rintro ⟨index, last⟩
      have ends : ∃ position, scene.EndsAt settings steps name position :=
        ⟨_, .intro last (List.getElem?_eq_getElem last.lt_length) (Properties.isDrag_drag _)⟩
      rcases ends with ⟨position, ends⟩
      exact ⟨(name, position), (mem_placedAt_iff settings plain steps name position).2 ends, rfl⟩
  · intro name position isPlaced
    exact (mem_placedAt_iff settings plain steps name position).1 isPlaced
  · intro found arranged
    exact mergeSort_eq_of_perm ordered arranged

/-- As many names are printed as the load has bound. -/
theorem length_placedAt : (placedAt (endOfRun settings scene steps)).length =
    ((Stage.new settings).playfield.summary scene).bound := by
  have live : ((Stage.new settings).loaded scene).isDisposed = false := isDisposed_loaded rfl scene
  have coherent : ((Stage.new settings).loaded scene).Coherent :=
    (Stage.coherent_new settings).loaded rfl scene
  have bindings : (endOfRun settings scene steps).playfield.bindings =
      ((Stage.new settings).loaded scene).playfield.bindings :=
    (advances_start live coherent steps).bindings_eq.trans (playfield_start live).2.1
  have counted : (endOfRun settings scene steps).playfield.namedBodies.length =
      ((Stage.new settings).loaded scene).playfield.bindings.size := by
    rw [← bindings]
    apply Playfield.length_namedBodies
    intro name handle bound
    rw [bindings] at bound
    rw [named?_endOfRun settings plain, Option.isSome_map]
    exact Stage.isSome_named?_loaded plain bound
  rw [placedAt, List.length_map, counted]
  cases listed : scene.bodies with
  | none =>
      rw [Stage.bindings_loaded_new settings listed, (Playfield.summary_bound_of_none _ listed).1]
      rfl
  | some entries => exact (Playfield.summary_bound listed).symm

end Run

/-- The digits of a number of steps are taken for this number, and not for an option. -/
theorem steps?_digitChars {steps : Nat} (short : steps < UInt32.size) :
    steps? (Decimal.digitChars steps) = some steps ∧
      looksLikeOption (Decimal.digitChars steps) = false := by
  rcases Numeral.areDigits_digitChars steps with ⟨notEmpty, digits⟩
  have all : (Decimal.digitChars steps).all Char.isDigit = true := List.all_eq_true.2 digits
  have value : Nat.ofDigitChars 10 (Decimal.digitChars steps) 0 = steps :=
    Nat.ofDigitChars_ten_toDigits
  cases isText : Decimal.digitChars steps with
  | nil => exact absurd isText notEmpty
  | cons first rest =>
      have isDigit := digits first (isText ▸ List.mem_cons_self)
      rw [isText] at all value
      have noSign : first ≠ '-' ∧ first ≠ '+' := by
        constructor <;> rintro rfl <;> cases isDigit
      have counted : rest.foldl (fun value digit => 10 * value + (digit.toNat - 48))
          (first.toNat - 48) = steps := by
        simpa [Nat.ofDigitChars] using value
      constructor
      · simp [steps?, noSign, all, counted, short]
      · simp [looksLikeOption, noSign]

/-- Every number of steps can be asked for, with every file. -/
theorem parse_load {steps : Nat} (short : steps < UInt32.size) {path : String}
    (isFile : path ≠ "") :
    parse ["load", "--steps", numberText steps, "--", path] =
      some (.run ⟨none, steps, .load path⟩) := by
  rcases steps?_digitChars short with ⟨isNumber, noOption⟩
  have digits : (numberText steps).toList = Decimal.digitChars steps := String.toList_ofList
  have waits : takeAfter false .anything .nothing "--steps".toList =
      some (.valueOf .steps, .nothing) := rfl
  have counts : takeAfter false (.valueOf .steps) .nothing (numberText steps).toList =
      some (.anything, ⟨none, some steps, none, none⟩) := by
    simp [takeAfter, takeValue, digits, noOption, note, isNumber, Given.nothing]
  have ends : takeAfter false .anything ⟨none, some steps, none, none⟩ "--".toList =
      some (.file, ⟨none, some steps, none, none⟩) := rfl
  have opens : takeAfter false .file ⟨none, some steps, none, none⟩ path.toList =
      some (.file, ⟨none, some steps, none, some path⟩) := by
    simp [takeAfter, noteFile, isFile]
  have reads : readAfter false ["--steps".toList, (numberText steps).toList, "--".toList,
      path.toList] = some ⟨none, some steps, none, some path⟩ := by
    simp only [readAfter, List.foldlM_cons, List.foldlM_nil, waits, counts, ends, opens,
      Option.bind_eq_bind, Option.bind_some]
    rfl
  have isLoad : "load".toList = ['l', 'o', 'a', 'd'] := rfl
  simp only [parse, List.map_cons, List.map_nil, readBefore, isLoad, reads]
  rfl

/-- What comes of a scene file: a report, a stage on which every beat was a step, the names with their
places, and the lines that show them. -/
structure Prints (surroundings : Surroundings) (invocation : Invocation) (settings : Settings)
    (text : String) (scene : Scene) (report : LoadSummary) (ended : Stage)
    (placed : List (String × Vector2)) (lines : List String) : Prop where
  loaded : (Stage.new settings).answer (.loadText text) = .ok (.loaded report)
  beats : Beats settings ((Stage.new settings).after (.loadText text)) invocation.steps ended
  places : Places settings scene invocation.steps placed
  bound_eq : report.bound = placed.length
  /-- There is one line for each name, and it shows the name and the place. -/
  shows : List.Forall₂ (fun named line => IsLine named.1 named.2 line) placed lines
  /-- The run succeeds; the report is printed first, and then the lines. -/
  outcome_eq : (execute surroundings invocation).outcome "" =
    (.ok (), reported report ++ String.join lines)
  run_eq : ∀ arguments, parse arguments = some (.run invocation) →
    run surroundings arguments = .finished (reported report ++ String.join lines) none

/-- A scene file is loaded if it can be decoded. The run then takes all its steps and prints where
each name of the scene has come to. -/
theorem load_prints {surroundings : Surroundings} {config : Option String} {settings : Settings}
    {path text : String} {scene : Scene}
    (accepted : settingsFrom surroundings config = .ok settings)
    (holds : surroundings.bytesOf path = .ok (Utf8.encode text))
    (decoded : Scene.decode text = .ok scene) (steps : Nat) :
    ∃ report ended placed lines,
      Prints surroundings ⟨config, steps, .load path⟩ settings text scene report ended placed
        lines := by
  have plain : scene.IsPlain := Scene.isPlain_of_decode decoded
  have live : ((Stage.new settings).loaded scene).isDisposed = false := isDisposed_loaded rfl scene
  have coherent : ((Stage.new settings).loaded scene).Coherent :=
    (Stage.coherent_new settings).loaded rfl scene
  have loads : (Stage.new settings).after (.loadText text) = (Stage.new settings).loaded scene := by
    apply Stage.after_of_scene? rfl
    rw [Operation.scene?, decoded]
    rfl
  have outcome : (execute surroundings ⟨config, steps, .load path⟩).outcome "" =
      (.ok (), reported ((Stage.new settings).playfield.summary scene) ++
        String.join ((placedAt (endOfRun settings scene steps)).map fun named =>
          bodyLine named.1 named.2)) := by
    rw [outcome_execute_load accepted steps holds, decoded, ← bodyLines_eq, ← reportLine_eq]
    rfl
  refine ⟨_, endOfRun settings scene steps, placedAt (endOfRun settings scene steps), _, ?_, ?_,
    places_endOfRun settings plain steps, (length_placedAt settings plain steps).symm, ?_, outcome,
    ?_⟩
  · rw [Stage.answer_of_live rfl, Stage.liveAnswer, decoded]
  · rw [loads]
    exact beats_run live coherent steps
  · rw [List.forall₂_map_right_iff, List.forall₂_same]
    exact fun named _ => isLine_bodyLine named.1 named.2
  · intro arguments asks
    rw [run_of_outcome surroundings asks, outcome]

/-- Two bodies of one name, of which the second does not move. The body that comes between them has
an earlier name, falls through air, and stands at a place that is rounded when it is shown. -/
theorem load_prints_twins :
    let text := "\x7b\"bodies\":[\x7b\"shape\":\"peg\",\"position\":[1,2],\"name\":\"b\"\x7d," ++
      "\x7b\"shape\":\"peg\",\"position\":[-3.126,4],\"name\":\"a\",\"frictionAir\":0.25\x7d," ++
      "null,\x7b\"shape\":\"disc\",\"position\":[5,6],\"name\":\"b\",\"isStatic\":true\x7d]\x7d"
    let surroundings : Surroundings :=
      { bytesOf := fun _ => .ok (Utf8.encode text), post := fun _ _ => .received 404 [] }
    let arguments := ["load", "--steps", numberText 2, "--", "scene"]
    ∃ scene report ended placed lines, Scene.decode text = .ok scene ∧
      Prints surroundings ⟨none, 2, .load "scene"⟩ .default text scene report ended placed lines ∧
      "b" ∈ placed.map (·.1) ∧ "c" ∉ placed.map (·.1) ∧
      run surroundings arguments = .finished
        ("Loaded 3 bodies (2 named, 1 dropped, 0 discarded, 0 diagnostics)\n" ++
          "           a  (   -3.13,     4.57)\n" ++
          "           b  (    5.00,     6.00)\n") none := by
  intro text surroundings arguments
  have names : (Scene.decode text).toOption.map (fun scene => scene.valids.map (·.plan.name)) =
      some [some "b", some "a", some "b"] := by decide +kernel
  have printed : (run surroundings arguments).output =
      "Loaded 3 bodies (2 named, 1 dropped, 0 discarded, 0 diagnostics)\n" ++
        "           a  (   -3.13,     4.57)\n" ++
        "           b  (    5.00,     6.00)\n" := by
    decide +kernel
  cases decoded : Scene.decode text with
  | error fault =>
      rw [decoded] at names
      cases names
  | ok scene =>
      rw [decoded] at names
      have accepted : settingsFrom surroundings none = .ok .default := rfl
      have holds : surroundings.bytesOf "scene" = .ok (Utf8.encode text) := rfl
      rcases load_prints accepted holds decoded 2 with ⟨report, ended, placed, lines, prints⟩
      have named : ∀ name, name ∈ placed.map (·.1) ↔
          some name ∈ [some "b", some "a", some "b"] := by
        intro name
        rw [prints.places.named_iff, ← Option.some.inj names, List.mem_map]
      have asks : parse arguments = some (.run ⟨none, 2, .load "scene"⟩) :=
        parse_load (by decide) (by decide)
      refine ⟨scene, report, ended, placed, lines, rfl, prints, ?_, ?_, ?_⟩
      · exact (named "b").2 (by decide)
      · exact fun isNamed => absurd ((named "c").1 isNamed) (by decide)
      · have ends := prints.run_eq arguments asks
        rw [ends] at printed
        exact ends.trans (congrArg (Outcome.finished · none) printed)

end CommandLine

end PhysicsScene
