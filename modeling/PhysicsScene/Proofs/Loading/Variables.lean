import PhysicsScene.Proofs.Scene.Naming
import PhysicsScene.Proofs.Stage.Population

/-!
# Variables of a load

In its turn an entry binds the variable of its name to its body, and no other variable
(`Playfield.bindsAt_iff`). Two entries share a variable if each of them binds it in its turn, so
that the later one takes it over. An integer is named by its decimal text, which is the text of no
other integer, so bodies that are named by different integers share none, and a body that is named
by a text shares one with them exactly if the text is the decimal text of the integer.
-/

namespace PhysicsScene

namespace Decimal

theorem ofList_integerChars (value : Int) :
    String.ofList (integerChars value) = toString value := by
  cases value with
  | ofNat magnitude => rfl
  | negSucc magnitude =>
      have minus : String.ofList ['-'] = "-" := rfl
      have sign : '-' :: digitChars (magnitude + 1) = ['-'] ++ digitChars (magnitude + 1) := rfl
      rw [integerChars, sign, String.ofList_append, minus]
      rfl

theorem toString_ne_empty (value : Int) : toString value ≠ "" := by
  rw [← ofList_integerChars, ne_eq, String.ofList_eq_empty_iff]
  cases value with
  | ofNat magnitude => exact (Numeral.areDigits_digitChars magnitude).1
  | negSucc magnitude => exact List.cons_ne_nil _ _

end Decimal

namespace Name

variable {value : Int}

/-- An integer other than zero gives its decimal text as a name. -/
theorem ofJson?_integer (inRange : Number.InRange value) (notZero : value ≠ 0) :
    ofJson? (.number (.integer value inRange)) = some (toString value) := by
  rw [ofJson?, ofNumber?_integer inRange notZero, Option.map_some, Decimal.ofList_integerChars]

theorem ofJson?_zero (inRange : Number.InRange 0) :
    ofJson? (.number (.integer 0 inRange)) = none := by
  have unnamed : ofNumber? (.integer 0 inRange) = none :=
    ofNumber?_of_eq_zero (by decide +kernel : wholeValue? (Double.ofInt 0) = some 0)
  rw [ofJson?, unnamed, Option.map_none]

end Name

namespace SceneEntry

/-- The entry asks for a body and comes from an object with a value under `name`. -/
def IsNamedBy (entry : SceneEntry) (value : Json) : Prop :=
  ∃ members valid, entry = .ofJson (.object members) ∧ Json.valuesAt "name" members = [value] ∧
    entry.valid? = some valid

theorem exists_valid_of_isNamedBy {entry : SceneEntry} {value : Json}
    (named : entry.IsNamedBy value) :
    ∃ valid, entry.valid? = some valid ∧ valid.plan.name = Name.ofJson? value := by
  rcases named with ⟨members, valid, rfl, isValue, asked⟩
  refine ⟨valid, asked, ?_⟩
  rcases (valid?_eq_some_iff _ _).1 asked with ⟨isPlan, -, -, -⟩
  simp only [ofJson] at isPlan
  split at isPlan
  · next found read =>
    cases isPlan
    simp only [BodyPlan.ofMembers?, BodyPlan.name?, isValue, Option.bind_eq_bind, Option.pure_def,
      Option.bind_eq_some_iff, Option.some.injEq] at read
    rcases read with ⟨shape, -, position, -, name, isName, isPlan⟩
    rw [← isPlan, ← isName]
  · cases isPlan

end SceneEntry

namespace Playfield

variable {before : Playfield} {scene : Scene} {entries : List SceneEntry} {place : Nat}

/-- In the turn of the entry at a place, a load binds the name to the body of this entry, which is
kept behind the next handle. -/
def BindsAt (before : Playfield) (scene : Scene) (entries : List SceneEntry) (place : Nat)
    (name : String) : Prop :=
  (before.casting scene (entries.take (place + 1))).bindings.find? name =
    some ⟨(before.casting scene (entries.take place)).world.bodies.size⟩

/-- The entries at two places bind a common name, each in its turn. -/
def Share (before : Playfield) (scene : Scene) (entries : List SceneEntry)
    (first second : Nat) : Prop :=
  ∃ name, before.BindsAt scene entries first name ∧ before.BindsAt scene entries second name

/-- An entry binds the name that it has, and no other. -/
theorem bindsAt_iff {entry : SceneEntry} (here : entries[place]? = some entry) (name : String) :
    before.BindsAt scene entries place name ↔
      ∃ valid, entry.valid? = some valid ∧ valid.plan.name = some name := by
  have earlier := covers_casting before scene (entries.take place)
  have later := covers_casting before scene (entries.take (place + 1))
  have size : (before.casting scene (entries.take place)).world.bodies.size =
      before.simulation.world.bodies.size +
        (SceneEntry.validsOf (entries.take place)).length := by
    simp [earlier.world_eq, Casting.length_buildAll]
  have bound : before.BindsAt scene entries place name ↔
      LastAt ((SceneEntry.validsOf (entries.take (place + 1))).map (·.plan.name)) name
        (SceneEntry.validsOf (entries.take place)).length := by
    rw [BindsAt, later.bindings_iff, size]
    constructor
    · rintro ⟨index, same, last⟩
      have isIndex : (SceneEntry.validsOf (entries.take place)).length = index := by
        simpa using same
      rwa [isIndex]
    · intro last
      exact ⟨_, rfl, last⟩
  rw [bound, SceneEntry.take_succ_of_getElem? here, SceneEntry.validsOf_concat]
  cases asked : entry.valid? with
  | none => simp [LastAt]
  | some valid =>
      have atEnd : LastAt ((SceneEntry.validsOf (entries.take place)).map (·.plan.name) ++
          [valid.plan.name]) name (SceneEntry.validsOf (entries.take place)).length ↔
            valid.plan.name = some name := by
        by_cases named : valid.plan.name = some name
        · simp [named, lastAt_concat_self]
        · simp [LastAt, named]
      simpa using atEnd

/-- A body that a value names binds the name that the value gives, if it gives one. -/
theorem bindsAt_iff_of_isNamedBy {entry : SceneEntry} {value : Json}
    (here : entries[place]? = some entry) (named : entry.IsNamedBy value) (name : String) :
    before.BindsAt scene entries place name ↔ Name.ofJson? value = some name := by
  rcases SceneEntry.exists_valid_of_isNamedBy named with ⟨valid, asked, isName⟩
  rw [bindsAt_iff here, asked, ← isName]
  simp

/-- Bodies share a variable exactly if their values give the same name. -/
theorem share_iff {other : Nat} {entry otherEntry : SceneEntry} {value otherValue : Json}
    (here : entries[place]? = some entry) (named : entry.IsNamedBy value)
    (there : entries[other]? = some otherEntry) (otherNamed : otherEntry.IsNamedBy otherValue) :
    before.Share scene entries place other ↔
      ∃ name, Name.ofJson? value = some name ∧ Name.ofJson? otherValue = some name := by
  simp only [Share, bindsAt_iff_of_isNamedBy here named, bindsAt_iff_of_isNamedBy there otherNamed]

/-- What an integer does as the name of a body in a load. -/
structure BindsText (before : Playfield) (scene : Scene) (entries : List SceneEntry) (value : Int)
    (place : Nat) : Prop where
  /-- The body is bound to the decimal text of the integer, and to nothing else. -/
  bindsAt_iff : ∀ name, before.BindsAt scene entries place name ↔ name = toString value
  /-- A body that another integer names has another variable. -/
  not_share : ∀ otherValue otherInRange, otherValue ≠ value → ∀ other entry,
    entries[other]? = some entry →
      entry.IsNamedBy (.number (.integer otherValue otherInRange)) →
        ¬before.Share scene entries place other
  /-- A body that a text names has the same variable exactly if it is the decimal text. -/
  share_iff : ∀ text other entry, entries[other]? = some entry → entry.IsNamedBy (.text text) →
    (before.Share scene entries place other ↔ text = toString value)

/-- An integer other than zero names a body by its decimal text, however large it is, so that in any
load the body shares a variable with no other integer and with no other text. -/
theorem integer_bindsText {value : Int} (inRange : Number.InRange value) (notZero : value ≠ 0) :
    Name.ofJson? (.number (.integer value inRange)) = some (toString value) ∧
      ∀ (before : Playfield) scene entries place entry, entries[place]? = some entry →
        entry.IsNamedBy (.number (.integer value inRange)) →
          BindsText before scene entries value place := by
  have isName := Name.ofJson?_integer inRange notZero
  refine ⟨isName, ?_⟩
  intro before scene entries place entry here named
  refine ⟨?_, ?_, ?_⟩
  · intro name
    rw [bindsAt_iff_of_isNamedBy here named, isName, Option.some.injEq, eq_comm]
  · intro otherValue otherInRange different other otherEntry there otherNamed
    rw [share_iff here named there otherNamed, isName]
    rintro ⟨name, isText, isOther⟩
    rcases eq_or_ne otherValue 0 with rfl | otherNotZero
    · rw [Name.ofJson?_zero] at isOther
      cases isOther
    · rw [Name.ofJson?_integer otherInRange otherNotZero, ← isText, Option.some.injEq] at isOther
      exact different (Int.repr_inj.1 isOther)
  · intro text other otherEntry there otherNamed
    rw [share_iff here named there otherNamed, isName]
    constructor
    · rintro ⟨name, isText, isOther⟩
      simp only [Name.ofJson?] at isOther
      split at isOther
      · cases isOther
      · exact (Option.some.inj isOther).trans (Option.some.inj isText).symm
    · rintro rfl
      exact ⟨_, rfl, if_neg (Decimal.toString_ne_empty value)⟩

/-- Neighbours that are one double are two names, and a text may be the same name. -/
theorem integer_bindsText_neighbours :
    let entry (name : Json) : SceneEntry :=
      .ofJson (.object [("name", name), ("position", .array [.number (.integer 1 (by decide)),
        .number (.integer 2 (by decide))]), ("shape", .text "circle")])
    let odd : Number := .integer 9007199254740993 (by decide)
    let even : Number := .integer 9007199254740992 (by decide)
    let entries := [entry (.number odd), entry (.number even), entry (.text "9007199254740993")]
    let before := new (.new (.new World.defaultGravity) (.new ⟨800, 600⟩))
    odd.toDouble = even.toDouble ∧ Name.ofJson? (.number odd) = some "9007199254740993" ∧
      ¬before.Share .empty entries 0 1 ∧ before.Share .empty entries 0 2 := by
  intro entry odd even entries before
  have named : ∀ value, (entry value).IsNamedBy value := fun value => ⟨_, _, rfl, rfl, rfl⟩
  have inRange : Number.InRange 9007199254740993 := by decide
  rcases integer_bindsText inRange (by decide) with ⟨isName, binds⟩
  have exact := binds before .empty entries 0 _ rfl (named _)
  refine ⟨by decide +kernel, isName, ?_, ?_⟩
  · exact exact.not_share _ _ (by decide) 1 _ rfl (named (.number even))
  · exact (exact.share_iff _ 2 _ rfl (named _)).2 rfl

end Playfield

end PhysicsScene
