import PhysicsScene.Proofs.Loading.Numbering
import PhysicsScene.Proofs.Scene.Plain
import PhysicsScene.Proofs.Stage.Frame

/-!
# Identities along the runs of a stage

A fresh stage is numbered, and every operation that brings nothing but plain factories keeps it so:
a load goes on numbering where the world stands, a step moves bodies without renaming them, and
`dispose` forgets the world but not the bodies. The bodies that a run makes are therefore numbered
from one, without a gap. While fewer bodies are made than there are identities, this tells bodies
apart and orders the world, and a name always belongs to one body of the world.
-/

namespace PhysicsScene

namespace Operation

/-- The operation registers and brings nothing but built-in shapes and templates. -/
def IsPlain : Operation → Prop
  | .register _ factory => factory.IsPlain
  | .load scene | .arrive (.ok scene) => scene.IsPlain
  | _ => True

/-- A text brings no other factories, so nothing is asked of it. -/
theorem IsPlain.of_scene? {operation : Operation} (plain : operation.IsPlain) {scene : Scene}
    (brings : operation.scene? = some scene) : scene.IsPlain := by
  cases operation with
  | load found =>
      cases brings
      exact plain
  | loadText text =>
      cases decoded : Scene.decode text with
      | error fault =>
          simp only [scene?, decoded] at brings
          cases brings
      | ok found =>
          simp only [scene?, decoded] at brings
          cases brings
          exact Scene.isPlain_of_decode decoded
  | arrive result =>
      cases result with
      | error failure => cases brings
      | ok found =>
          cases brings
          exact plain
  | _ => cases brings

theorem IsPlain.registers {operation : Operation} (plain : operation.IsPlain)
    {registry : Registry} (registered : Factory.ArePlain registry.factories) :
    Factory.ArePlain (operation.registers registry).factories := by
  cases operation with
  | register name factory => exact registered.insert name plain
  | _ => exact registered

end Operation

namespace Stage

/-- The bodies that an operation makes. -/
def made (stage : Stage) (operation : Operation) : List Body :=
  (stage.after operation).simulation.world.bodies.toList.drop stage.simulation.world.bodies.size

/-- The bodies that a list of operations makes, each as its own operation leaves it. -/
def madeBy (stage : Stage) : List Operation → List Body
  | [] => []
  | operation :: later => stage.made operation ++ (stage.after operation).madeBy later

theorem madeBy_append (stage : Stage) (earlier later : List Operation) :
    stage.madeBy (earlier ++ later) =
      stage.madeBy earlier ++ (stage.run earlier).madeBy later := by
  induction earlier generalizing stage with
  | nil => rfl
  | cons operation earlier ih =>
      rw [List.cons_append, madeBy, madeBy, ih, List.append_assoc]
      rfl

variable {stage : Stage}

theorem Coherent.size_bodies_after (coherent : stage.Coherent) (operation : Operation) :
    (stage.after operation).simulation.world.bodies.size =
      stage.simulation.world.bodies.size + (stage.made operation).length := by
  have grows : stage.simulation.world.bodies.size ≤
      (stage.after operation).simulation.world.bodies.size := by
    cases coherent.turn_after operation with
    | rests world _ => exact Nat.le_of_eq (by rw [world])
    | moves duration world _ => exact Nat.le_of_eq (by rw [world, World.size_bodies_step])
    | ends world _ =>
        rw [world]
        exact Nat.le_refl _
    | loads scene entries live brings listed loaded =>
        have bodies : (stage.loaded scene).simulation.world.bodies = _ :=
          Playfield.loaded_bodies listed
        rw [loaded, bodies, Array.size_append]
        exact Nat.le_add_right _ _
  rw [made, List.length_drop, Array.length_toList]
  omega

theorem Coherent.size_bodies_run (coherent : stage.Coherent) (operations : List Operation) :
    (stage.run operations).simulation.world.bodies.size =
      stage.simulation.world.bodies.size + (stage.madeBy operations).length := by
  induction operations generalizing stage with
  | nil => rfl
  | cons operation later ih =>
      have first := coherent.size_bodies_after operation
      have rest := ih (coherent.after operation)
      rw [madeBy, List.length_append, ← Nat.add_assoc, ← first]
      exact rest

/-- A stage whose world is numbered and whose names go into the world while it lives. -/
structure Numbered (stage : Stage) : Prop where
  coherent : stage.Coherent
  world : stage.simulation.world.Numbered
  plain : Factory.ArePlain stage.playfield.registry.factories
  named : stage.isDisposed = false → ∀ name handle,
    stage.playfield.bindings.find? name = some handle → handle ∈ stage.simulation.world.members

theorem numbered_new (settings : Settings) : (new settings).Numbered := by
  refine ⟨coherent_new settings, World.numbered_new settings.gravity, ?_, ?_⟩
  · exact Registry.arePlain_standard
  · intro _ name handle found
    cases found

theorem Numbered.castsPlain (numbered : stage.Numbered) {scene : Scene} (plain : scene.IsPlain) :
    stage.playfield.CastsPlain scene :=
  Registry.isPlain_resolve (Registry.isPlain_resolve_none numbered.plain) plain

/-- Every operation that brings nothing but plain factories keeps a stage numbered. -/
theorem Numbered.after (numbered : stage.Numbered) {operation : Operation}
    (plain : operation.IsPlain) : (stage.after operation).Numbered := by
  have coherent := numbered.coherent.after operation
  have registered : Factory.ArePlain (stage.after operation).playfield.registry.factories := by
    rw [numbered.coherent.registry_after]
    exact plain.registers numbered.plain
  -- An operation never brings a disposed stage back, so the names were right before it.
  have lived : (stage.after operation).isDisposed = false → stage.isDisposed = false := by
    intro live
    rw [isDisposed_after, Bool.or_eq_false_iff] at live
    exact live.1
  cases numbered.coherent.turn_after operation with
  | rests world bindings =>
      refine ⟨coherent, ?_, registered, ?_⟩
      · rw [world]
        exact numbered.world
      · intro live
        rw [world, bindings]
        exact numbered.named (lived live)
  | moves duration world bindings =>
      refine ⟨coherent, ?_, registered, ?_⟩
      · rw [world]
        exact numbered.world.step duration
      · intro live
        rw [world, bindings]
        exact numbered.named (lived live)
  | ends world disposed =>
      refine ⟨coherent, ?_, registered, ?_⟩
      · rw [world]
        exact numbered.world.clear
      · intro live
        rw [disposed] at live
        cases live
  | loads scene entries live brings listed loaded =>
      have casts := numbered.castsPlain (plain.of_scene? brings)
      refine ⟨coherent, ?_, registered, ?_⟩
      · rw [loaded]
        exact Playfield.numbered_loaded casts listed numbered.world
      · intro _ name handle found
        rw [loaded] at found ⊢
        exact Playfield.mem_loaded_members_of_plain casts listed found

theorem Numbered.run (numbered : stage.Numbered) {operations : List Operation}
    (plain : ∀ operation ∈ operations, operation.IsPlain) : (stage.run operations).Numbered := by
  induction operations generalizing stage with
  | nil => exact numbered
  | cons operation later ih =>
      have first := numbered.after (plain operation List.mem_cons_self)
      exact ih first fun other member => plain other (List.mem_cons_of_mem _ member)

theorem Numbered.map_id_made (numbered : stage.Numbered) {operation : Operation}
    (plain : operation.IsPlain) :
    (stage.made operation).map (·.id) =
      (List.range' (stage.simulation.world.bodies.size + 1)
        (stage.made operation).length).map fun number => some (.ofNat number) := by
  have grows := numbered.coherent.size_bodies_after operation
  have ids := (numbered.after plain).world.map_id_drop stage.simulation.world.bodies.size
  rw [grows, Nat.add_sub_cancel_left] at ids
  exact ids

/-- The bodies that a run makes are numbered without a gap. -/
theorem Numbered.map_id_madeBy (numbered : stage.Numbered) {operations : List Operation}
    (plain : ∀ operation ∈ operations, operation.IsPlain) :
    (stage.madeBy operations).map (·.id) =
      (List.range' (stage.simulation.world.bodies.size + 1)
        (stage.madeBy operations).length).map fun number => some (.ofNat number) := by
  induction operations generalizing stage with
  | nil => rfl
  | cons operation later ih =>
      have here := plain operation List.mem_cons_self
      have first := numbered.map_id_made here
      have rest := ih (numbered.after here) fun other member =>
        plain other (List.mem_cons_of_mem _ member)
      have place := numbered.coherent.size_bodies_after operation
      -- The rest of the run goes on numbering where this operation stops.
      rw [madeBy, List.map_append, first, rest, place, List.length_append, Nat.add_right_comm,
        ← List.map_append, List.range'_append_1]

/-- How identities and names refer to the bodies of a live stage. -/
structure Identified (stage : Stage) : Prop where
  /-- Behind every handle of the world is a body. -/
  length_eq : stage.simulation.world.memberBodies.length = stage.simulation.world.members.length
  /-- Every body has an identity, they increase along the world, and the next one is above. -/
  ids_increase : ∃ numbers : List UInt64,
    stage.simulation.world.memberBodies.map (·.id) =
      numbers.map (fun number => some ⟨number⟩) ∧
      numbers.Pairwise (· < ·) ∧ ∀ number ∈ numbers, number < stage.simulation.world.nextId
  /-- A name shows exactly one element of the world. -/
  named : ∀ name handle, stage.playfield.bindings.find? name = some handle →
    ∃ (index : Nat) (body : Body), stage.simulation.world.members[index]? = some handle ∧
      stage.simulation.world.memberBodies[index]? = some body ∧
      stage.playfield.named? name = some body ∧
      ∀ other : Nat, stage.simulation.world.members[other]? = some handle → other = index

theorem Numbered.identified (numbered : stage.Numbered) (live : stage.isDisposed = false)
    (few : stage.simulation.world.bodies.size < 2 ^ 64 - 1) : stage.Identified := by
  refine ⟨numbered.world.length_memberBodies, ?_, ?_⟩
  · refine ⟨stage.simulation.world.members.map fun handle =>
      (Identity.ofNat (handle.index + 1)).number, ?_, ?_, ?_⟩
    · rw [numbered.world.map_id_memberBodies, List.map_map]
      rfl
    · rw [List.pairwise_map]
      refine List.Pairwise.imp_of_mem ?_ numbered.world.ordered
      intro first second _ secondMember below
      have kept := numbered.world.kept second secondMember
      exact Identity.number_ofNat_lt (by omega) (by omega)
    · intro number member
      rcases List.mem_map.1 member with ⟨handle, handleMember, rfl⟩
      have kept := numbered.world.kept handle handleMember
      rw [numbered.world.nextId_eq]
      exact Identity.number_ofNat_lt (by omega) (by omega)
  · intro name handle found
    have member := numbered.named live name handle found
    rcases List.getElem?_of_mem member with ⟨index, here⟩
    rcases numbered.world.body?_of_mem member with ⟨body, isBody⟩
    refine ⟨index, body, here, ?_, ?_, ?_⟩
    · rw [numbered.world.getElem?_memberBodies, here]
      exact isBody
    · rw [Playfield.named?, found]
      exact isBody
    · intro other there
      have inside := (List.getElem?_eq_some_iff.1 here).1
      exact ((List.getElem?_inj inside numbered.world.distinct).1 (here.trans there.symm)).symm

/-- How an operation assigns identities after a run that made some bodies. -/
structure Assigns (before : Stage) (past : List Body) (operation : Operation) : Prop where
  /-- No load discards a body. -/
  discarded_eq : ∀ report, before.report? operation = some report → report.discarded = 0
  /-- A load assigns as many consecutive identities as it has valid entries. -/
  loads : before.isDisposed = false → ∀ scene entries, operation.scene? = some scene →
    scene.bodies = some entries →
      (before.made operation).map (·.id) =
        (List.range' before.simulation.world.nextId.toNat
          (SceneEntry.validsOf entries).length).map (fun number => some (.ofNat number)) ∧
      (before.after operation).simulation.world.nextId.toNat =
        before.simulation.world.nextId.toNat + (SceneEntry.validsOf entries).length
  /-- Nothing but a load on a live stage makes bodies. -/
  made_eq_nil : (before.isDisposed = false → operation.replaces = false) →
    before.made operation = [] ∧
      (before.after operation).simulation.world.nextId = before.simulation.world.nextId
  /-- Every identity is above all that were assigned before. -/
  fresh : ∀ old ∈ past, ∀ body ∈ before.made operation, ∃ older newer : Identity,
    old.id = some older ∧ body.id = some newer ∧ older.number < newer.number

theorem Numbered.length_made_of_scene? (numbered : stage.Numbered)
    (live : stage.isDisposed = false) {operation : Operation} (plain : operation.IsPlain)
    {scene : Scene} {entries : List SceneEntry} (brings : operation.scene? = some scene)
    (listed : scene.bodies = some entries) :
    (stage.made operation).length = (SceneEntry.validsOf entries).length := by
  have casts := numbered.castsPlain (plain.of_scene? brings)
  have grows := numbered.coherent.size_bodies_after operation
  have size : (stage.loaded scene).simulation.world.bodies.size = _ :=
    Playfield.size_bodies_loaded_of_plain casts listed
  rw [after_of_scene? live brings, size] at grows
  exact (Nat.add_left_cancel grows).symm

theorem Numbered.assigns (numbered : stage.Numbered) {operation : Operation}
    (plain : operation.IsPlain)
    (few : (stage.after operation).simulation.world.bodies.size < 2 ^ 64 - 1) {past : List Body}
    (numberedPast : past.map (·.id) =
      (List.range' 1 stage.simulation.world.bodies.size).map fun number =>
        some (.ofNat number)) : stage.Assigns past operation := by
  have after := numbered.after plain
  have grows := numbered.coherent.size_bodies_after operation
  have ids := numbered.map_id_made plain
  have next : stage.simulation.world.nextId.toNat = stage.simulation.world.bodies.size + 1 := by
    rw [numbered.world.nextId_eq]
    exact Identity.toNat_number_ofNat (by omega)
  have nextAfter : (stage.after operation).simulation.world.nextId.toNat =
      (stage.after operation).simulation.world.bodies.size + 1 := by
    rw [after.world.nextId_eq]
    exact Identity.toNat_number_ofNat (by omega)
  refine ⟨?_, ?_, ?_, ?_⟩
  · intro report reports
    rw [report?_eq, Option.ite_none_left_eq_some] at reports
    rcases Option.map_eq_some_iff.1 reports.2 with ⟨scene, brings, rfl⟩
    cases listed : scene.bodies with
    | none => simp only [Playfield.summary, listed]
    | some entries =>
        exact Playfield.discarded_eq_zero_of_plain
          (numbered.castsPlain (plain.of_scene? brings)) listed
  · intro live scene entries brings listed
    have count := numbered.length_made_of_scene? live plain brings listed
    refine ⟨?_, ?_⟩
    · rw [ids, next, count]
    · omega
  · intro keeps
    have same : stage.made operation = [] := by
      cases numbered.coherent.turn_after operation with
      | rests world _ =>
          rw [made, world]
          simp
      | moves duration world _ =>
          rw [made, world]
          simp [World.size_bodies_step]
      | ends world _ =>
          rw [made, world]
          simp [World.clear]
      | loads scene entries live brings listed _ =>
          have replaces := Operation.replaces_of_scene? brings
          rw [keeps live, listed] at replaces
          cases replaces
    refine ⟨same, ?_⟩
    rw [same, List.length_nil] at grows
    rw [after.world.nextId_eq, numbered.world.nextId_eq, grows, Nat.add_zero]
  · intro old oldMember body bodyMember
    have oldId := List.mem_map_of_mem (f := Body.id) oldMember
    have bodyId := List.mem_map_of_mem (f := Body.id) bodyMember
    rw [numberedPast] at oldId
    rw [ids] at bodyId
    rcases List.mem_map.1 oldId with ⟨older, oldRange, oldId⟩
    rcases List.mem_map.1 bodyId with ⟨newer, newRange, bodyId⟩
    rw [List.mem_range'_1] at oldRange newRange
    exact ⟨_, _, oldId.symm, bodyId.symm, Identity.number_ofNat_lt (by omega) (by omega)⟩

/-- Who the bodies of a run of a fresh stage are. -/
structure Identities (settings : Settings) (operations : List Operation) : Prop where
  /-- While the stage lives, identities and names tell its bodies apart. -/
  identified : ((new settings).run operations).isDisposed = false →
    ((new settings).run operations).Identified
  /-- Every operation of the run assigns new identities, above all earlier ones. -/
  assigns : ∀ earlier operation later, operations = earlier ++ operation :: later →
    ((new settings).run earlier).Assigns ((new settings).madeBy earlier) operation

/-- A run that brings nothing but plain factories, and makes fewer bodies than there are
identities, never gives an identity twice, and every name belongs to one body of the world. -/
theorem identities_run (settings : Settings) {operations : List Operation}
    (plain : ∀ operation ∈ operations, operation.IsPlain)
    (few : ((new settings).madeBy operations).length < 2 ^ 64 - 1) :
    Identities settings operations := by
  have start := numbered_new settings
  have count : ∀ operations : List Operation,
      ((new settings).run operations).simulation.world.bodies.size =
        ((new settings).madeBy operations).length := by
    intro operations
    exact (start.coherent.size_bodies_run operations).trans (Nat.zero_add _)
  refine ⟨?_, ?_⟩
  · intro live
    exact (start.run plain).identified live (by rw [count]; exact few)
  · intro earlier operation later decomposed
    subst decomposed
    have earlierPlain : ∀ other ∈ earlier, other.IsPlain := fun other member =>
      plain other (List.mem_append_left _ member)
    have total := congrArg List.length ((new settings).madeBy_append earlier (operation :: later))
    have here := (start.run earlierPlain).coherent.size_bodies_after operation
    simp only [madeBy, List.length_append] at total
    refine (start.run earlierPlain).assigns (plain operation (by simp)) ?_ ?_
    · rw [here, count]
      omega
    · rw [start.map_id_madeBy earlierPlain, count]
      rfl

/-- A name occurs twice and an entry is dropped; then a template takes the name over. -/
theorem identities_run_reload :
    let entry (shape : String) : SceneEntry :=
      .plan { shape := some shape, position := some ⟨1, 2⟩, name := some "box", options := .none }
    let first := { Scene.empty with
      bodies := some [entry "circle", .malformed .null, entry "rectangle"] }
    let second := { Scene.empty with
      bodies := some [entry "crate"]
      overrides := some (Dictionary.empty.insert "crate" (.template (.new .rectangle .none))) }
    let operations := [.load first, .start, .tick, .load second]
    Identities .default operations ∧
      ((new .default).madeBy operations).map (·.id) =
        [some (.ofNat 1), some (.ofNat 2), some (.ofNat 3)] ∧
      ((new .default).run operations).simulation.world.members = [⟨2⟩] ∧
      ((new .default).run operations).playfield.bindings.find? "box" = some ⟨2⟩ := by
  intro entry first second operations
  have plain : ∀ operation ∈ operations, operation.IsPlain := by
    simp only [operations, List.forall_mem_cons]
    refine ⟨Scene.isPlain_empty, trivial, trivial, ?_, nofun⟩
    rintro table ⟨⟩ name factory found
    rw [Dictionary.find?_insert] at found
    split at found
    · cases found
      exact .template _
    · cases found
  have made : ((new .default).madeBy operations).map (·.id) =
      [some (.ofNat 1), some (.ofNat 2), some (.ofNat 3)] := by
    decide
  have three := congrArg List.length made
  rw [List.length_map] at three
  refine ⟨identities_run .default plain ?_, made, ?_, ?_⟩
  · rw [three]
    decide
  · decide
  · decide

end Stage

end PhysicsScene
