import Mathlib.Data.List.Basic
import Mathlib.Data.List.Induction
import PhysicsScene.Dictionary.Lemmas
import PhysicsScene.Playfield

/-!
# Casting the bodies of a scene

The bodies of a scene are built in one pass over its entries. What the pass must give is said
without it: `buildAll` builds the bodies of the valid entries in order, handing the next identity
from one to the other, and each name goes to the last valid entry that has it. `Casting.Covers`
relates a casting to the entries that were looked at so far. It holds at the start, every entry
keeps it, and so it holds at the end of the pass.
-/

namespace PhysicsScene

namespace SceneEntry

/-- The entry is a plan that has a shape, which is not empty, and a position. -/
def Asks (entry : SceneEntry) (valid : Valid) : Prop :=
  entry = .plan valid.plan ∧ valid.plan.shape = some valid.shape ∧ valid.shape ≠ "" ∧
    valid.plan.position = some valid.position

theorem valid?_eq_some_iff (entry : SceneEntry) (valid : Valid) :
    entry.valid? = some valid ↔ entry.Asks valid := by
  rcases valid with ⟨plan, shape, position⟩
  cases entry with
  | malformed value => simp [valid?, Asks]
  | plan found =>
      simp only [valid?, Asks]
      constructor
      · intro asked
        split at asked
        · next foundShape foundPosition =>
          split at asked
          · cases asked
          · next notEmpty =>
            cases asked
            exact ⟨rfl, foundShape, notEmpty, foundPosition⟩
        · cases asked
      · rintro ⟨same, foundShape, notEmpty, foundPosition⟩
        cases same
        simp [foundShape, foundPosition, notEmpty]

/-- What the valid ones among a list of entries ask for. -/
def validsOf (entries : List SceneEntry) : List Valid :=
  entries.filterMap valid?

theorem validsOf_concat (entries : List SceneEntry) (entry : SceneEntry) :
    validsOf (entries ++ [entry]) = validsOf entries ++ entry.valid?.toList := by
  cases asked : entry.valid? <;> simp [validsOf, asked]

end SceneEntry

/-- A name stands at a place of a list of optional names, and at no later place. -/
def LastAt (names : List (Option String)) (name : String) (index : Nat) : Prop :=
  names[index]? = some (some name) ∧
    ∀ later, index < later → names[later]? ≠ some (some name)

theorem lastAt_concat_self (names : List (Option String)) (name : String) (index : Nat) :
    LastAt (names ++ [some name]) name index ↔ index = names.length := by
  constructor
  · rintro ⟨here, notLater⟩
    have inside : index < (names ++ [some name]).length := (List.getElem?_eq_some_iff.1 here).1
    rcases Nat.lt_or_ge index names.length with before | atEnd
    · exact absurd (by simp) (notLater names.length before)
    · simp only [List.length_append, List.length_singleton] at inside
      omega
  · rintro rfl
    refine ⟨by simp, fun later isLater => ?_⟩
    rw [List.getElem?_eq_none (by simp; omega)]
    simp

theorem lastAt_concat_of_ne (names : List (Option String)) {last : Option String} {name : String}
    (other : last ≠ some name) (index : Nat) :
    LastAt (names ++ [last]) name index ↔ LastAt names name index := by
  have same : ∀ place : Nat,
      (names ++ [last])[place]? = some (some name) ↔ names[place]? = some (some name) := by
    intro place
    rcases Nat.lt_trichotomy place names.length with before | atEnd | after
    · rw [List.getElem?_append_left before]
    · subst place
      simp [other]
    · rw [List.getElem?_eq_none (by simp; omega), List.getElem?_eq_none (by omega)]
  simp only [LastAt, same, ne_eq]

namespace Casting

/-- Builds the bodies of valid entries one after the other, outside any batch. -/
def buildAll (factoryOf : String → Factory) (valids : List SceneEntry.Valid) :
    Builder (List Body) :=
  valids.mapM fun valid => (factoryOf valid.shape).build valid.plan.options valid.position (-1)

/-- One more valid entry is built last, with the identity that the others left. -/
theorem buildAll_concat (factoryOf : String → Factory) (valids : List SceneEntry.Valid)
    (valid : SceneEntry.Valid) (next : UInt64) :
    buildAll factoryOf (valids ++ [valid]) next =
      let earlier := buildAll factoryOf valids next
      let last :=
        (factoryOf valid.shape).build valid.plan.options valid.position (-1) earlier.2
      (earlier.1 ++ [last.1], last.2) := by
  simp only [buildAll, List.mapM_append, List.mapM_cons, List.mapM_nil, bind_pure_comp, map_pure]
  rfl

theorem length_buildAll (factoryOf : String → Factory) (valids : List SceneEntry.Valid)
    (next : UInt64) : (buildAll factoryOf valids next).1.length = valids.length := by
  induction valids using List.reverseRecOn with
  | nil => rfl
  | append_singleton valids valid ih => simp [buildAll_concat, ih]

/-- The handles of the bodies that have an identity, if the bodies are kept from a place on. -/
def identified (first : Nat) (bodies : List Body) : List Handle :=
  (bodies.zipIdx first).filterMap fun (body, index) =>
    if body.id.isSome then some ⟨index⟩ else none

theorem identified_concat (first : Nat) (bodies : List Body) (body : Body) :
    identified first (bodies ++ [body]) =
      if body.id.isSome then identified first bodies ++ [⟨first + bodies.length⟩]
      else identified first bodies := by
  cases identity : body.id <;> simp [identified, List.zipIdx_append, identity]

theorem le_index_of_mem_identified {first : Nat} {bodies : List Body} {handle : Handle}
    (member : handle ∈ identified first bodies) : first ≤ handle.index := by
  rcases List.mem_filterMap.1 member with ⟨⟨body, index⟩, kept, isHandle⟩
  have same : ⟨index⟩ = handle := by
    cases identity : body.id <;> simp [identity] at isHandle
    exact isHandle
  subst same
  exact List.le_snd_of_mem_zipIdx kept

/-- Behind the identified handles are exactly the bodies with an identity, in order. -/
theorem filterMap_identified (kept : Array Body) (bodies : List Body) :
    (identified kept.size bodies).filterMap
        (fun handle => (kept ++ bodies.toArray)[handle.index]?) =
      bodies.filter (·.id.isSome) := by
  have behind : ∀ entry ∈ bodies.zipIdx kept.size,
      ((if entry.1.id.isSome then some (Handle.mk entry.2) else none).bind
        fun handle => (kept ++ bodies.toArray)[handle.index]?) =
      Option.guard (·.id.isSome) entry.1 := by
    rintro ⟨body, index⟩ member
    rcases List.mk_mem_zipIdx_iff_le_and_getElem?_sub.1 member with ⟨afterKept, here⟩
    cases identity : body.id with
    | none => simp [Option.guard, identity]
    | some id => simp [Option.guard, identity, Array.getElem?_append_right afterKept, here]
  calc
    _ = (bodies.zipIdx kept.size).filterMap
          (fun entry => Option.guard (·.id.isSome) entry.1) := by
      rw [identified, List.filterMap_filterMap]
      exact List.filterMap_congr behind
    _ = ((bodies.zipIdx kept.size).map Prod.fst).filter (·.id.isSome) := by
      rw [← List.filterMap_eq_filter, List.filterMap_map]
      rfl
    _ = bodies.filter (·.id.isSome) := by rw [List.zipIdx_map_fst]

/-- Entering a body keeps it, binds its name, and batches or discards it. -/
theorem enter_eq (casting : Casting) (name : Option String) (builder : Builder Body) :
    casting.enter name builder =
      let built := builder casting.world.nextId
      let handle : Handle := ⟨casting.world.bodies.size⟩
      { world :=
          { casting.world with bodies := casting.world.bodies.push built.1, nextId := built.2 }
        bindings :=
          match name with
          | some name => casting.bindings.insert name handle
          | none => casting.bindings
        batch := if built.1.id.isSome then casting.batch ++ [handle] else casting.batch
        dropped := casting.dropped
        discarded := if built.1.id.isSome then casting.discarded else casting.discarded + 1 } := by
  simp only [enter, World.keep]
  rcases builder casting.world.nextId with ⟨body, nextId⟩
  cases name <;> cases identity : body.id <;> simp [identity]

/-- What a casting holds after a list of entries, in terms of the world before it. -/
structure Covers (factoryOf : String → Factory) (world : World) (entries : List SceneEntry)
    (casting : Casting) : Prop where
  /-- The bodies of the valid entries are kept after all others and used up identities. -/
  world_eq : casting.world =
    let cast := buildAll factoryOf (SceneEntry.validsOf entries) world.nextId
    { world with bodies := world.bodies ++ cast.1.toArray, nextId := cast.2 }
  /-- The batch holds the new bodies that have an identity. -/
  batch_eq : casting.batch =
    identified world.bodies.size
      (buildAll factoryOf (SceneEntry.validsOf entries) world.nextId).1
  /-- A name is bound to the body of the last valid entry that has it. -/
  bindings_iff : ∀ name handle, casting.bindings.find? name = some handle ↔
    ∃ index, handle = ⟨world.bodies.size + index⟩ ∧
      LastAt ((SceneEntry.validsOf entries).map (·.plan.name)) name index
  /-- Every entry was valid or dropped. -/
  dropped_add : casting.dropped + (SceneEntry.validsOf entries).length = entries.length
  /-- Every valid entry gave a body that was batched or discarded. -/
  discarded_add :
    casting.discarded + casting.batch.length = (SceneEntry.validsOf entries).length

theorem covers_start (factoryOf : String → Factory) (world : World) :
    Covers factoryOf world [] (start world) where
  world_eq := by simp [start, buildAll, SceneEntry.validsOf]; rfl
  batch_eq := rfl
  bindings_iff := by simp [start, SceneEntry.validsOf, LastAt]
  dropped_add := rfl
  discarded_add := rfl

/-- Looking at one more entry keeps what a casting covers. -/
theorem covers_addEntry {factoryOf : String → Factory} {world : World}
    {entries : List SceneEntry} {casting : Casting}
    (covers : Covers factoryOf world entries casting) (entry : SceneEntry) :
    Covers factoryOf world (entries ++ [entry]) (casting.addEntry factoryOf entry) := by
  cases asked : entry.valid? with
  | none =>
      -- A dropped entry builds nothing: only its own counter moves.
      have same : SceneEntry.validsOf (entries ++ [entry]) = SceneEntry.validsOf entries := by
        simp [SceneEntry.validsOf_concat, asked]
      have dropped := covers.dropped_add
      simp only [addEntry, asked]
      refine ⟨?_, ?_, ?_, ?_, ?_⟩
      · simpa only [same] using covers.world_eq
      · simpa only [same] using covers.batch_eq
      · simpa only [same] using covers.bindings_iff
      · simp only [same, List.length_append, List.length_singleton]
        omega
      · simpa only [same] using covers.discarded_add
  | some valid =>
      have more :
          SceneEntry.validsOf (entries ++ [entry]) = SceneEntry.validsOf entries ++ [valid] := by
        simp [SceneEntry.validsOf_concat, asked]
      -- The handle of the new body is the size of the store, so it counts the valid entries.
      have kept := length_buildAll factoryOf (SceneEntry.validsOf entries) world.nextId
      have size : casting.world.bodies.size =
          world.bodies.size + (SceneEntry.validsOf entries).length := by
        simp [covers.world_eq, kept]
      simp only [addEntry, asked, enter_eq]
      refine ⟨?_, ?_, ?_, ?_, ?_⟩
      · simp [more, covers.world_eq, buildAll_concat, unbatched]
      · simp [more, covers.world_eq, covers.batch_eq, buildAll_concat, identified_concat, kept,
          unbatched]
      · intro name handle
        simp only [more, List.map_append, List.map_singleton]
        cases named : valid.plan.name with
        | none => simp [lastAt_concat_of_ne, covers.bindings_iff]
        | some bound =>
            rw [Dictionary.find?_insert]
            split
            · next same =>
              subst name
              simp [lastAt_concat_self, size, eq_comm]
            · next other =>
              have notBound : some bound ≠ some name := fun same =>
                other (Option.some.inj same).symm
              simp [lastAt_concat_of_ne _ notBound, covers.bindings_iff]
      · have dropped := covers.dropped_add
        simp only [more, List.length_append, List.length_singleton]
        omega
      · have discarded := covers.discarded_add
        simp only [more, List.length_append, List.length_singleton]
        split
        · rw [List.length_append, List.length_singleton]
          omega
        · omega

/-- At the end of the pass the casting covers all entries. -/
theorem covers_ofEntries (factoryOf : String → Factory) (world : World)
    (entries : List SceneEntry) :
    Covers factoryOf world entries (ofEntries factoryOf world entries) := by
  induction entries using List.reverseRecOn with
  | nil => exact covers_start factoryOf world
  | append_singleton entries entry ih =>
      rw [ofEntries, List.foldl_append, List.foldl_cons, List.foldl_nil]
      exact covers_addEntry ih entry

end Casting

end PhysicsScene
