import PhysicsScene.Json.Decoder
import PhysicsScene.Json.Printer

/-!
# Collision shapes

A body is a circle or a rectangle. In JSON the shape is an object whose member `kind` tells which;
it may stand anywhere among the members, and unknown members are ignored. An array of the kind
and the sizes in order stands for the same.
-/

namespace PhysicsScene

/-- The shape of a body. -/
inductive Geometry where
  | circle (radius : Float32)
  | rectangle (width height : Float32)
deriving DecidableEq

namespace Geometry

/-- The kinds of shapes. -/
inductive Kind where
  | circle
  | rectangle
deriving DecidableEq, Repr

namespace Kind

/-- The name of a kind. -/
def name : Kind → String
  | .circle => "circle"
  | .rectangle => "rectangle"

/-- The kind of a name. -/
def ofName? (name : String) : Option Kind :=
  if name = "circle" then some .circle
  else if name = "rectangle" then some .rectangle
  else none

/-- The names of the sizes of a kind, in order. -/
def sizes : Kind → List String
  | .circle => ["radius"]
  | .rectangle => ["width", "height"]

end Kind

/-- The shape of a kind with its sizes in order. -/
def ofSizes? : Kind → List Float32 → Option Geometry
  | .circle, [radius] => some (.circle radius)
  | .rectangle, [width, height] => some (.rectangle width height)
  | _, _ => none

/-- The one size of a name among the members of an object. -/
def size? (members : List (String × Json)) (name : String) : Option Float32 :=
  match Json.valuesAt name members with
  | [.number value] => some value.toSingle
  | _ => none

/-- The shape of a kind with the sizes that an object gives. -/
def ofMembers? (kind : Kind) (members : List (String × Json)) : Option Geometry := do
  ofSizes? kind (← kind.sizes.mapM (size? members))

/-- The shape of a kind with the sizes that an array gives. -/
def ofElements? (kind : Kind) (elements : List Json) : Option Geometry := do
  ofSizes? kind (← elements.mapM fun
    | .number value => some value.toSingle
    | _ => none)

/-- Accepts a value that was found, or reports the wrong kind. -/
def accept {α : Type} : Option α → Reader α
  | some value => pure value
  | none => Reader.fail .mismatched

/-- Reads the name of a kind. -/
def readKind (depth : Nat) : Reader Kind := do
  accept (Kind.ofName? (← Decoder.text.read depth))

/-- Reads one member: the kind as such, all others as they are. -/
def readMember (depth : Nat) (seen : Option Kind × List (String × Json)) (name : String) :
    Reader (Option Kind × List (String × Json)) :=
  if name = "kind" then
    if seen.1.isSome then Reader.fail .mismatched
    else do
      Reader.colon
      pure (some (← readKind depth), seen.2)
  else do
    Reader.colon
    pure (seen.1, (name, ← Json.read depth) :: seen.2)

/-- Reads one element: the first as a kind, all others as they are. -/
def readElement (depth : Nat) (seen : Option Kind × List Json) :
    Reader (Option Kind × List Json) :=
  match seen.1 with
  | none => do pure (some (← readKind depth), seen.2)
  | some kind => do pure (some kind, (← Json.read depth) :: seen.2)

/-- Reads a shape. -/
def read (depth : Nat) : Reader Geometry := do
  match ← Reader.significant with
  | some '\x7b' => Reader.nested depth fun inside => do
      let (kind, members) ← Reader.members (readMember inside) (none, [])
      accept (do ofMembers? (← kind) members.reverse)
  | some '[' => Reader.nested depth fun inside => do
      let (kind, elements) ← Reader.elements (readElement inside) (none, [])
      accept (do ofElements? (← kind) elements.reverse)
  | _ => Decoder.wrongKind

/-- The text of a shape. -/
def chars : Geometry → List Char
  | .circle radius => Json.objectChars
      [("kind", Json.textChars Kind.circle.name), ("radius", Json.singleChars radius)]
  | .rectangle width height => Json.objectChars
      [("kind", Json.textChars Kind.rectangle.name), ("width", Json.singleChars width),
        ("height", Json.singleChars height)]

end Geometry

end PhysicsScene
