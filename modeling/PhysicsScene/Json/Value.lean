import PhysicsScene.Binary
import PhysicsScene.Dictionary

/-!
# JSON values

`Json` is a document tree as written: an object keeps its members in the order of the text, with
repeated keys. `Json.canonical` gives the tree in which every object has each key once, with the
value written last, in increasing order of the keys. Rules that forbid a repeated key look at the
raw tree, and everything that is kept is canonical.
-/

namespace PhysicsScene

namespace Number

/-- The integers that are numbers of their own: those of 64 bits, with or without a sign. -/
def InRange (value : Int) : Prop :=
  -9223372036854775808 ≤ value ∧ value < 18446744073709551616

instance (value : Int) : Decidable (InRange value) :=
  inferInstanceAs (Decidable (_ ∧ _))

end Number

/-- A JSON number: an integer of 64 bits or a finite double. -/
inductive Number where
  | integer (value : Int) (inRange : Number.InRange value)
  | real (value : Float) (finite : value.isFinite = true)
deriving DecidableEq

namespace Number

/-- The number as a double. -/
def toDouble : Number → Float
  | .integer value _ => Double.ofInt value
  | .real value _ => value

/-- The number as a single, rounded directly from its value. -/
def toSingle : Number → Float32
  | .integer value _ => Single.ofInt value
  | .real value _ => Single.ofDouble value

/-- The number as a single by way of a double, as sizes and properties are read. -/
def toSingleByDouble (number : Number) : Float32 :=
  Single.ofDouble number.toDouble

/-- The unsigned 64-bit integer that a number is, if it is one. -/
def toUInt64? : Number → Option UInt64
  | .integer value _ => if 0 ≤ value then some (UInt64.ofNat value.toNat) else none
  | .real _ _ => none

end Number

/-- A JSON document tree. -/
inductive Json where
  | null
  | boolean (value : Bool)
  | number (value : Number)
  | text (value : String)
  | array (elements : List Json)
  | object (members : List (String × Json))

namespace Json

instance : Inhabited Json := ⟨.null⟩

/-- The canonical tree: of several members with one key the last counts, and keys increase. -/
def canonical : Json → Json
  | .null => .null
  | .boolean value => .boolean value
  | .number value => .number value
  | .text value => .text value
  | .array elements => .array (canonicalElements elements)
  | .object members => .object (canonicalMembers members)
where
  /-- The canonical trees of the elements of an array. -/
  canonicalElements : List Json → List Json
    | [] => []
    | element :: rest => element.canonical :: canonicalElements rest
  /-- The canonical members of an object. -/
  canonicalMembers : List (String × Json) → List (String × Json)
    | [] => []
    | (key, value) :: rest =>
        let later := canonicalMembers rest
        if (later.lookup key).isSome then later
        else Dictionary.insertEntry key value.canonical later

theorem ordered_canonicalMembers (members : List (String × Json)) :
    (canonical.canonicalMembers members).Pairwise (fun first second => first.1 < second.1) := by
  induction members with
  | nil => simp [canonical.canonicalMembers]
  | cons head rest ih =>
      obtain ⟨key, value⟩ := head
      simp only [canonical.canonicalMembers]
      split
      · exact ih
      · exact Dictionary.ordered_insertEntry key value.canonical ih

/-- The members of an object as a dictionary of canonical values. -/
def dictionary (members : List (String × Json)) : Dictionary Json :=
  ⟨canonical.canonicalMembers members, ordered_canonicalMembers members⟩

/-- The values written under a key, in the order of the text. -/
def valuesAt (key : String) (members : List (String × Json)) : List Json :=
  members.filterMap fun member => if member.1 = key then some member.2 else none

/-- The members whose keys are not in a list. -/
def membersExcept (keys : List String) (members : List (String × Json)) : List (String × Json) :=
  members.filter fun member => !keys.contains member.1

end Json

end PhysicsScene
