import PhysicsScene.Shape.Standard

/-!
# Templates

A template is a built-in shape with default options. In JSON it is an object whose member `base`
names the shape; all other members are the defaults. A base that is missing, `null` or not the
name of a built-in shape is `unknown`.
-/

namespace PhysicsScene

/-- A built-in shape with default options. -/
structure Template where
  base : Option String
  defaults : BodyOptions

namespace Template

/-- The template of a built-in shape. -/
def new (base : StandardShape) (defaults : BodyOptions) : Template :=
  ⟨some base.name, defaults⟩

/-- The shape that the template refines. -/
def shape (template : Template) : StandardShape :=
  (template.base.bind StandardShape.ofName?).getD .unknown

/-- Builds a body: what its own options do not give comes from the template. -/
def place (template : Template) (options : BodyOptions) (position : Vector2) : Builder Body :=
  template.shape.place (options.overlay template.defaults) position

/-- The template of the values of `base` and the other members of an object. -/
def ofMembers? (members : List (String × Json)) : Option Template := do
  let base ←
    match Json.valuesAt "base" members with
    | [] => some none
    | [value] => (Decoder.nullable Decoder.text).ofJson? value
    | _ => none
  pure ⟨base, .ofDictionary (Json.dictionary (Json.membersExcept ["base"] members))⟩

/-- Reads a member: the base as such and only once, all others as they are. -/
def readMember (depth : Nat) (seen : Option (Option String) × List (String × Json))
    (name : String) : Reader (Option (Option String) × List (String × Json)) :=
  if name = "base" then
    if seen.1.isSome then Reader.fail .mismatched
    else do
      Reader.colon
      pure (some (← (Decoder.nullable Decoder.text).read depth), seen.2)
  else do
    Reader.colon
    pure (seen.1, (name, ← Json.read depth) :: seen.2)

/-- An object with an optional base. -/
def decoder : Decoder Template where
  read depth := Decoder.readIf (· = '\x7b') <| Reader.nested depth fun inside => do
    let (base, members) ← Reader.members (readMember inside) (none, [])
    pure ⟨base.getD none, .ofDictionary (Json.dictionary members.reverse)⟩
  ofJson?
    | .object members => ofMembers? members
    | _ => none

end Template

end PhysicsScene
