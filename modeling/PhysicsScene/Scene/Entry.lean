import PhysicsScene.Scene.Name
import PhysicsScene.Shape.Options

/-!
# Entries of a body list

Every element of a body list is an entry of the scene. An object whose shape and position can be
used is a plan of a body; anything else is kept as it is and never loaded. Only the members
`shape`, `position` and `name` are looked at here and must not be repeated, all others are options.
-/

namespace PhysicsScene

/-- What a scene says about one body. -/
structure BodyPlan where
  shape : Option String
  position : Option Vector2
  name : Option String
  options : BodyOptions

namespace BodyPlan

/-- The one number of a name among the members of an object. -/
def coordinate? (members : List (String × Json)) (name : String) : Option Float32 :=
  match Json.valuesAt name members with
  | [.number value] => some value.toSingle
  | _ => none

/-- A position: an object with the numbers `x` and `y`, or an array of two numbers. -/
def position? : Json → Option Vector2
  | .object members => do pure ⟨← coordinate? members "x", ← coordinate? members "y"⟩
  | .array [.number x, .number y] => some ⟨x.toSingle, y.toSingle⟩
  | _ => none

/-- The value of a member that may be missing or `null`, but not repeated. -/
def optional? {α : Type} (members : List (String × Json)) (name : String)
    (decode : Json → Option α) : Option (Option α) :=
  match Json.valuesAt name members with
  | [] => some none
  | [.null] => some none
  | [value] => some <$> decode value
  | _ => none

/-- The name of a body; a value that gives no name is as good as none. -/
def name? (members : List (String × Json)) : Option (Option String) :=
  match Json.valuesAt "name" members with
  | [] => some none
  | [value] => some (Name.ofJson? value)
  | _ => none

/-- The plan that the members of an object give. -/
def ofMembers? (members : List (String × Json)) : Option BodyPlan := do
  let shape ← optional? members "shape" fun
    | .text value => some value
    | _ => none
  let position ← optional? members "position" position?
  let name ← name? members
  let rest := Json.membersExcept ["shape", "position", "name"] members
  pure { shape, position, name, options := .ofDictionary (Json.dictionary rest) }

end BodyPlan

/-- One element of a body list. -/
inductive SceneEntry where
  | plan (plan : BodyPlan)
  /-- An element that cannot be used, in canonical form. -/
  | malformed (value : Json)

namespace SceneEntry

/-- The entry that a value stands for; every value stands for one. -/
def ofJson (json : Json) : SceneEntry :=
  match json with
  | .object members =>
      match BodyPlan.ofMembers? members with
      | some found => .plan found
      | none => .malformed json.canonical
  | _ => .malformed json.canonical

/-- A body that can be built: its plan, shape and position. -/
structure Valid where
  plan : BodyPlan
  shape : String
  position : Vector2

/-- The body that an entry asks for: it has a shape that is not empty, and a position. -/
def valid? : SceneEntry → Option Valid
  | .plan found =>
      match found.shape, found.position with
      | some shape, some position => if shape = "" then none else some ⟨found, shape, position⟩
      | _, _ => none
  | .malformed _ => none

end SceneEntry

end PhysicsScene
