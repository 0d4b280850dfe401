import PhysicsScene.Proofs.Number.Conversion
import PhysicsScene.Proofs.Loading.Numbering
import PhysicsScene.Proofs.Scene.Acceptance

/-!
# What an element of a list of bodies means

An element asks for a body if it is an object with a shape, which is a text and not empty, and with
a position, which is an object with two numbers or an array of two numbers. Nothing else about the
element can spoil that. The body follows from the members alone: `Depicts` says where it stands,
which geometry it has and which properties. It is stated by look-ups and by the rounding of the
numbers that they find. It does not mention options, so it says what the way through plans, options
and factories comes to.
-/

namespace PhysicsScene

namespace Json

theorem lookup_membersExcept (keys : List String) (members : List (String × Json))
    (name : String) :
    (membersExcept keys members).lookup name =
      if name ∈ keys then none else members.lookup name := by
  induction members with
  | nil => simp [membersExcept]
  | cons head rest ih =>
      rcases head with ⟨key, value⟩
      by_cases removed : key ∈ keys
      · have step : membersExcept keys ((key, value) :: rest) = membersExcept keys rest := by
          simp [membersExcept, removed]
        rw [step, ih, Dictionary.lookup_cons_ite]
        by_cases same : name = key
        · simp [same, removed]
        · simp [same]
      · have step : membersExcept keys ((key, value) :: rest) =
            (key, value) :: membersExcept keys rest := by
          simp [membersExcept, removed]
        rw [step, Dictionary.lookup_cons_ite, Dictionary.lookup_cons_ite, ih]
        by_cases same : name = key
        · simp [same, removed]
        · simp [same]

theorem distinct_membersExcept {members : List (String × Json)}
    (distinct : (members.map (·.1)).Nodup) (keys : List String) :
    ((membersExcept keys members).map (·.1)).Nodup :=
  distinct.sublist (List.filter_sublist.map _)

/-- The dictionary of some members of a canonical object answers with what was written. -/
theorem find?_dictionary_membersExcept {members : List (String × Json)}
    (canonical : IsCanonical (.object members)) (keys : List String) (name : String) :
    (dictionary (membersExcept keys members)).find? name =
      if name ∈ keys then none else members.lookup name := by
  have distinct := distinct_membersExcept canonical.uniqueKeys.distinct keys
  rw [Dictionary.find?, dictionary, lookup_canonicalMembers distinct, lookup_membersExcept]
  split
  · rfl
  · cases found : members.lookup name with
    | none => rfl
    | some value => exact congrArg some (canonical.member found)

end Json

namespace SceneEntry

/-- The names of the members that make the body or name it. -/
def ownNames : List String :=
  ["shape", "position", "name"]

/-- The names under which a number is a size. -/
def sizeNames : List String :=
  ["radius", "width", "height"]

/-- An object with the numbers `x` and `y`, or an array of two numbers; each is rounded once. -/
inductive IsPosition : Json → Vector2 → Prop
  | object {members : List (String × Json)} {first second : Number} {x y : Float32}
      (isX : members.lookup "x" = some (.number first))
      (isY : members.lookup "y" = some (.number second))
      (roundsX : first.RoundsTo x) (roundsY : second.RoundsTo y) :
      IsPosition (.object members) ⟨x, y⟩
  | array {first second : Number} {x y : Float32}
      (roundsX : first.RoundsTo x) (roundsY : second.RoundsTo y) :
      IsPosition (.array [.number first, .number second]) ⟨x, y⟩

/-- A value that asks for a body: an object with a shape that is not empty, and a position. -/
inductive AsksFor : Json → List (String × Json) → String → Vector2 → Prop
  | object {members : List (String × Json)} {shape : String} {place : Json} {position : Vector2}
      (isShape : members.lookup "shape" = some (.text shape)) (notEmpty : shape ≠ "")
      (isPlace : members.lookup "position" = some place)
      (isPosition : IsPosition place position) : AsksFor (.object members) members shape position

/-- The name that the members give to a body. -/
def nameOf (members : List (String × Json)) : Option String :=
  (members.lookup "name").bind Name.ofJson?

/-- The size that the members give under a name: a number that does not come to zero. -/
inductive GivesSize (members : List (String × Json)) (name : String) : Option Float32 → Prop
  | size {number : Number} {size : Float32} (given : members.lookup name = some (.number number))
      (rounds : number.RoundsByDouble size) (notZero : ¬Single.IsZero size) :
      GivesSize members name (some size)
  | zero {number : Number} {size : Float32} (given : members.lookup name = some (.number number))
      (rounds : number.RoundsByDouble size) (isZero : Single.IsZero size) :
      GivesSize members name none
  | nothing (noNumber : ∀ number, members.lookup name ≠ some (.number number)) :
      GivesSize members name none

/-- The geometry of a body: every shape but a rectangle is sized as a circle. -/
inductive IsGeometry (members : List (String × Json)) : String → Geometry → Prop
  | rectangle {width height : Option Float32} (isWidth : GivesSize members "width" width)
      (isHeight : GivesSize members "height" height) :
      IsGeometry members "rectangle" (.rectangle (width.getD 100) (height.getD 100))
  | circle {shape : String} (notRectangle : shape ≠ "rectangle") {width radius : Option Float32}
      (isWidth : GivesSize members "width" width) (isRadius : GivesSize members "radius" radius) :
      IsGeometry members shape (.circle ((width.map (· / 2) <|> radius).getD 25))

/-- The member is a property: it neither makes nor names the body and is not taken as a size. -/
def IsProperty (name : String) (value : Json) : Prop :=
  name ∉ ownNames ∧ ¬(name ∈ sizeNames ∧ (value = .null ∨ value.IsNumber))

/-- The body is what the members ask for, whatever its identity is. -/
structure Depicts (members : List (String × Json)) (shape : String) (position : Vector2)
    (body : Body) : Prop where
  position_eq : body.position = position
  velocity_eq : body.velocity = ⟨0, 0⟩
  isGeometry : IsGeometry members shape body.geometry
  properties_iff : ∀ name value, body.properties.find? name = some value ↔
    members.lookup name = some value ∧ IsProperty name value

end SceneEntry

namespace BodyPlan

theorem coordinate?_eq_some_iff {members : List (String × Json)}
    (distinct : (members.map (·.1)).Nodup) (name : String) (value : Float32) :
    coordinate? members name = some value ↔
      ∃ number : Number, members.lookup name = some (.number number) ∧
        number.RoundsTo value := by
  simp only [Number.roundsTo_iff]
  rw [coordinate?, Json.valuesAt_eq distinct]
  rcases members.lookup name with _ | found
  · simp
  · cases found with
    | number number => simp [eq_comm]
    | _ => simp

theorem position?_eq_some_iff {place : Json} (unique : place.UniqueKeys) (position : Vector2) :
    position? place = some position ↔ SceneEntry.IsPosition place position := by
  constructor
  · intro isPosition
    simp only [position?] at isPosition
    split at isPosition
    · next members =>
      simp only [Option.bind_eq_bind, Option.bind_eq_some_iff, Option.pure_def, Option.some.injEq,
        coordinate?_eq_some_iff unique.distinct] at isPosition
      rcases isPosition with ⟨x, ⟨first, isX, roundsX⟩, y, ⟨second, isY, roundsY⟩, rfl⟩
      exact .object isX isY roundsX roundsY
    · next first second =>
      cases isPosition
      exact .array ((first.roundsTo_iff _).2 rfl) ((second.roundsTo_iff _).2 rfl)
    · cases isPosition
  · rintro (⟨isX, isY, roundsX, roundsY⟩ | ⟨roundsX, roundsY⟩)
    · have first := (coordinate?_eq_some_iff unique.distinct "x" _).2 ⟨_, isX, roundsX⟩
      have second := (coordinate?_eq_some_iff unique.distinct "y" _).2 ⟨_, isY, roundsY⟩
      simp [position?, first, second]
    · rw [(Number.roundsTo_iff _ _).1 roundsX, (Number.roundsTo_iff _ _).1 roundsY]
      rfl

theorem optional?_eq {α : Type} {members : List (String × Json)}
    (distinct : (members.map (·.1)).Nodup) (name : String) (decode : Json → Option α) :
    optional? members name decode =
      match members.lookup name with
      | none => some none
      | some .null => some none
      | some value => some <$> decode value := by
  rw [optional?, Json.valuesAt_eq distinct]
  rcases members.lookup name with _ | found
  · rfl
  · cases found with
    | _ => rfl

theorem optional?_eq_some_some_iff {α : Type} {members : List (String × Json)}
    (distinct : (members.map (·.1)).Nodup) (name : String) {decode : Json → Option α}
    (nothing : decode .null = none) (found : α) :
    optional? members name decode = some (some found) ↔
      ∃ value, members.lookup name = some value ∧ decode value = some found := by
  rw [optional?_eq distinct]
  rcases members.lookup name with _ | value
  · simp
  · cases value with
    | null => simp [nothing]
    | _ => simp

theorem name?_eq {members : List (String × Json)} (distinct : (members.map (·.1)).Nodup) :
    name? members = some (SceneEntry.nameOf members) := by
  rw [name?, Json.valuesAt_eq distinct, SceneEntry.nameOf]
  rcases members.lookup "name" with _ | found
  · rfl
  · rfl

/-- The plan of an element that asks for a body. -/
def planned (members : List (String × Json)) (shape : String) (position : Vector2) : BodyPlan where
  shape := some shape
  position := some position
  name := SceneEntry.nameOf members
  options := .ofDictionary (Json.dictionary (Json.membersExcept SceneEntry.ownNames members))

theorem ofMembers?_eq_some_iff {members : List (String × Json)}
    (canonical : Json.IsCanonical (.object members)) {plan : BodyPlan} {shape : String}
    {position : Vector2} (hasShape : plan.shape = some shape)
    (hasPosition : plan.position = some position) :
    ofMembers? members = some plan ↔
      members.lookup "shape" = some (.text shape) ∧
        (∃ place, members.lookup "position" = some place ∧
          SceneEntry.IsPosition place position) ∧
        plan = planned members shape position := by
  have distinct := canonical.uniqueKeys.distinct
  rcases plan with ⟨_, _, name, options⟩
  cases hasShape
  cases hasPosition
  simp only [ofMembers?, Option.bind_eq_bind, Option.bind_eq_some_iff, Option.pure_def,
    Option.some.injEq]
  constructor
  · rintro ⟨foundShape, isShape, foundPosition, isPosition, foundName, isName, same⟩
    rw [name?_eq distinct] at isName
    cases isName
    cases same
    rcases (optional?_eq_some_some_iff distinct "shape" rfl shape).1 isShape with
      ⟨value, shapeGiven, isText⟩
    rcases (optional?_eq_some_some_iff distinct "position" rfl position).1 isPosition with
      ⟨place, placeGiven, isPlace⟩
    have unique := (canonical.member placeGiven).uniqueKeys
    cases value with
    | text =>
        cases isText
        exact ⟨shapeGiven, ⟨place, placeGiven, (position?_eq_some_iff unique position).1 isPlace⟩,
          rfl⟩
    | _ => cases isText
  · rintro ⟨shapeGiven, ⟨place, placeGiven, isPlace⟩, same⟩
    cases same
    have unique := (canonical.member placeGiven).uniqueKeys
    refine ⟨some shape, ?_, some position, ?_, SceneEntry.nameOf members, name?_eq distinct, rfl⟩
    · exact (optional?_eq_some_some_iff distinct "shape" rfl shape).2 ⟨_, shapeGiven, rfl⟩
    · apply (optional?_eq_some_some_iff distinct "position" rfl position).2
      exact ⟨place, placeGiven, (position?_eq_some_iff unique position).2 isPlace⟩

end BodyPlan

namespace SceneEntry

theorem ofJson_eq_plan_iff (value : Json) (plan : BodyPlan) :
    ofJson value = .plan plan ↔
      ∃ members, value = .object members ∧ BodyPlan.ofMembers? members = some plan := by
  constructor
  · intro same
    cases value with
    | object members =>
        simp only [ofJson] at same
        split at same
        · next found isPlan =>
          cases same
          exact ⟨members, rfl, isPlan⟩
        · cases same
    | _ => cases same
  · rintro ⟨members, rfl, isPlan⟩
    simp only [ofJson, isPlan]

/-- A generic value is taken as a body exactly if it asks for one. -/
theorem valid?_ofJson_eq_some_iff {value : Json} (canonical : value.IsCanonical) (valid : Valid) :
    (ofJson value).valid? = some valid ↔
      ∃ members, AsksFor value members valid.shape valid.position ∧
        valid.plan = BodyPlan.planned members valid.shape valid.position := by
  rw [valid?_eq_some_iff, Asks, ofJson_eq_plan_iff]
  constructor
  · rintro ⟨⟨members, rfl, isPlan⟩, hasShape, notEmpty, hasPosition⟩
    rcases (BodyPlan.ofMembers?_eq_some_iff canonical hasShape hasPosition).1 isPlan with
      ⟨isShape, ⟨place, isPlace, isPosition⟩, same⟩
    exact ⟨members, .object isShape notEmpty isPlace isPosition, same⟩
  · rintro ⟨members, ⟨isShape, notEmpty, isPlace, isPosition⟩, same⟩
    have hasShape : valid.plan.shape = some valid.shape := by rw [same, BodyPlan.planned]
    have hasPosition : valid.plan.position = some valid.position := by
      rw [same, BodyPlan.planned]
    refine ⟨⟨_, rfl, ?_⟩, hasShape, notEmpty, hasPosition⟩
    apply (BodyPlan.ofMembers?_eq_some_iff canonical hasShape hasPosition).2
    exact ⟨isShape, ⟨_, isPlace, isPosition⟩, same⟩

end SceneEntry

namespace BodyOptions

theorem find?_withoutSize (members : Dictionary Json) (size name : String) (value : Json) :
    (withoutSize members size).find? name = some value ↔
      members.find? name = some value ∧ ¬(name = size ∧ (value = .null ∨ value.IsNumber)) := by
  simp only [withoutSize]
  split
  · next number found =>
    rw [Dictionary.find?_erase]
    by_cases same : name = size
    · subst same
      rw [if_pos rfl, found]
      simp only [reduceCtorEq, true_and, false_iff, Option.some.injEq, not_and_not_right]
      rintro rfl
      exact .inr (.number number)
    · simp [same]
  · next found =>
    rw [Dictionary.find?_erase]
    by_cases same : name = size
    · subst same
      rw [if_pos rfl, found]
      simp only [reduceCtorEq, true_and, false_iff, Option.some.injEq, not_and_not_right]
      rintro rfl
      exact .inl rfl
    · simp [same]
  · next notNumber notNull =>
    constructor
    · intro here
      refine ⟨here, ?_⟩
      rintro ⟨rfl, isSize⟩
      rcases isSize with rfl | isNumber
      · exact notNull here
      · rcases isNumber with ⟨number⟩
        exact notNumber number here
    · rintro ⟨here, _⟩
      exact here

/-- What is left after all sizes were taken out. -/
theorem find?_properties_ofDictionary (members : Dictionary Json) (name : String) (value : Json) :
    (ofDictionary members).properties.find? name = some value ↔
      members.find? name = some value ∧
        ¬(name ∈ SceneEntry.sizeNames ∧ (value = .null ∨ value.IsNumber)) := by
  simp only [ofDictionary, List.foldl_cons, List.foldl_nil, find?_withoutSize,
    SceneEntry.sizeNames, List.mem_cons, List.not_mem_nil, or_false]
  tauto

/-- A size is given unless it comes to zero, since no number comes to NaN. -/
theorem givesSize_given {members : List (String × Json)} {rest : Dictionary Json} {name : String}
    (same : rest.find? name = members.lookup name) :
    SceneEntry.GivesSize members name (given (size? rest name)) := by
  rw [size?, same]
  split
  · next number found =>
    have rounds := (number.roundsByDouble_iff _).2 rfl
    have equal := Single.beq_zero_iff number.toSingleByDouble
    have counts : isGiven number.toSingleByDouble = !(number.toSingleByDouble == 0) := by
      rw [isGiven, number.isNaN_toSingleByDouble, Bool.not_false, Bool.and_true]
    rw [given, Option.filter_some, counts]
    cases isEqual : number.toSingleByDouble == 0 with
    | true => exact .zero found rounds (equal.1 isEqual)
    | false => exact .size found rounds fun isZero => by simp [equal.2 isZero] at isEqual
  · next noNumber => exact .nothing noNumber

end BodyOptions

namespace StandardShape

/-- The built-in shape that a name stands for. -/
def named (name : String) : StandardShape :=
  (ofName? name).getD .unknown

theorem named_of_ne {name : String} (notCircle : name ≠ "circle")
    (notRectangle : name ≠ "rectangle") : named name = .unknown := by
  by_cases unknown : name = "unknown"
  · subst unknown
    rfl
  · simp [named, ofName?, all, StandardShape.name, Ne.symm notCircle, Ne.symm notRectangle,
      Ne.symm unknown]

/-- Without overrides the built-in registry resolves a name to the shape that it stands for. -/
theorem resolve_standard (name : String) :
    Registry.standard.resolve none name = .standard (named name) := by
  by_cases circle : name = "circle"
  · subst circle
    rfl
  · by_cases rectangle : name = "rectangle"
    · subst rectangle
      rfl
    · have fallback : Registry.standard.factories.find? StandardShape.unknown.name =
          some (.standard .unknown) := rfl
      rw [named_of_ne circle rectangle]
      cases registered : Registry.standard.factories.find? name with
      | none => simp [Registry.resolve, registered, fallback]
      | some factory =>
          have only : name = "unknown" ∧ factory = .standard .unknown := by
            simpa [Registry.standard, all, Registry.register, StandardShape.name,
              Dictionary.find?_insert, circle, rectangle, eq_comm] using registered
          simp [Registry.resolve, registered, only.2]

theorem isGeometry_named {members : List (String × Json)} {rest : Dictionary Json}
    (same : ∀ name ∈ SceneEntry.sizeNames, rest.find? name = members.lookup name) (name : String) :
    SceneEntry.IsGeometry members name ((named name).geometry (.ofDictionary rest)) := by
  have radius : SceneEntry.GivesSize members "radius" (BodyOptions.ofDictionary rest).givenRadius :=
    BodyOptions.givesSize_given (same "radius" (by decide))
  have width : SceneEntry.GivesSize members "width" (BodyOptions.ofDictionary rest).givenWidth :=
    BodyOptions.givesSize_given (same "width" (by decide))
  have height : SceneEntry.GivesSize members "height" (BodyOptions.ofDictionary rest).givenHeight :=
    BodyOptions.givesSize_given (same "height" (by decide))
  by_cases rectangle : name = "rectangle"
  · subst rectangle
    exact .rectangle width height
  · have circle : (named name).geometry (.ofDictionary rest) =
        .circle (BodyOptions.ofDictionary rest).circleRadius := by
      by_cases isCircle : name = "circle"
      · subst isCircle
        rfl
      · rw [named_of_ne isCircle rectangle, geometry]
    rw [circle]
    exact .circle rectangle width radius

end StandardShape

namespace SceneEntry

/-- What becomes of an element with the built-in shapes: nothing, or a body that may have a name. -/
inductive Comes : Json → Option (Option String × Body) → Prop
  | body {value : Json} {members : List (String × Json)} {shape : String} {position : Vector2}
      {body : Body} (asks : AsksFor value members shape position)
      (depicts : Depicts members shape position body) : Comes value (some (nameOf members, body))
  | nothing {value : Json}
      (useless : ∀ members shape position, ¬AsksFor value members shape position) :
      Comes value none

/-- The name and the body that an element comes to when it is cast with the built-in shapes. -/
def cast? (value : Json) : Option (Option String × Body) :=
  (ofJson value).valid?.map fun valid =>
    (valid.plan.name, Casting.formOf (Registry.standard.resolve none) valid)

theorem depicts_formOf {members : List (String × Json)}
    (canonical : Json.IsCanonical (.object members)) {valid : Valid}
    (planned : valid.plan = BodyPlan.planned members valid.shape valid.position) :
    Depicts members valid.shape valid.position
      (Casting.formOf (Registry.standard.resolve none) valid) := by
  have find := Json.find?_dictionary_membersExcept canonical ownNames
  have sizes : ∀ name ∈ sizeNames,
      (Json.dictionary (Json.membersExcept ownNames members)).find? name =
        members.lookup name := by
    have apart : ∀ name ∈ sizeNames, name ∉ ownNames := by decide
    intro name isSize
    rw [find, if_neg (apart name isSize)]
  rw [Casting.formOf, StandardShape.resolve_standard, planned]
  constructor
  · rfl
  · rfl
  · exact StandardShape.isGeometry_named sizes valid.shape
  · intro name value
    change (BodyOptions.ofDictionary _).properties.find? name = some value ↔ _
    rw [BodyOptions.find?_properties_ofDictionary, find, IsProperty]
    simp only [Option.ite_none_left_eq_some]
    tauto

theorem comes_cast? {value : Json} (canonical : value.IsCanonical) : Comes value (cast? value) := by
  cases asked : (ofJson value).valid? with
  | none =>
      rw [cast?, asked]
      apply Comes.nothing
      intro members shape position asks
      have valid := (valid?_ofJson_eq_some_iff canonical
        ⟨BodyPlan.planned members shape position, shape, position⟩).2 ⟨members, asks, rfl⟩
      rw [asked] at valid
      cases valid
  | some valid =>
      rcases (valid?_ofJson_eq_some_iff canonical valid).1 asked with ⟨members, asks, planned⟩
      have named : valid.plan.name = nameOf members := by rw [planned, BodyPlan.planned]
      rw [cast?, asked, Option.map_some, named]
      refine .body asks (depicts_formOf ?_ planned)
      cases asks
      exact canonical

end SceneEntry

end PhysicsScene
