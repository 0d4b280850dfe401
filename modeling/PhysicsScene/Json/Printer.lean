import PhysicsScene.Json.Value
import PhysicsScene.Decimal.Layout

/-!
# Writing JSON

The text has no spaces. In strings only the quotation mark, the backslash and the characters
below U+0020 are escaped. A float is written with the fewest digits that read back, the last of
them even in a tie, and always with a fraction or an exponent; NaN and the infinities are written
as `null`.
-/

namespace PhysicsScene

namespace Json

/-- A 32-bit number is written in positional form from `0.000001` to below `1e13`. -/
def singleLayout : Decimal.Layout := ⟨fun leading => -6 ≤ leading && leading ≤ 12, true, .even⟩

/-- A 64-bit number is written in positional form from `0.00001` to below `1e16`. -/
def doubleLayout : Decimal.Layout := ⟨fun leading => -5 ≤ leading && leading ≤ 15, true, .even⟩

/-- The text of a single-precision number. -/
def singleChars (number : Float32) : List Char :=
  (Decimal.finiteChars? singleLayout .single (Single.value number)).getD ['n', 'u', 'l', 'l']

/-- The text of a double-precision number. -/
def doubleChars (number : Float) : List Char :=
  (Decimal.finiteChars? doubleLayout .double (Double.value number)).getD ['n', 'u', 'l', 'l']

/-- The lower-case hexadecimal digit of a value below sixteen. -/
def hexDigit (value : Nat) : Char :=
  Nat.digitChar value

/-- A character as it stands inside a string. -/
def escapedChars (char : Char) : List Char :=
  match char with
  | '"' => ['\\', '"']
  | '\\' => ['\\', '\\']
  | '\n' => ['\\', 'n']
  | '\r' => ['\\', 'r']
  | '\t' => ['\\', 't']
  | '\x08' => ['\\', 'b']
  | '\x0c' => ['\\', 'f']
  | _ =>
      if char.toNat < 0x20 then
        ['\\', 'u', '0', '0', hexDigit (char.toNat / 16), hexDigit (char.toNat % 16)]
      else [char]

/-- A string between quotation marks. -/
def textChars (text : String) : List Char :=
  '"' :: text.toList.flatMap escapedChars ++ ['"']

/-- The text of a number. -/
def numberChars : Number → List Char
  | .integer value _ => Decimal.integerChars value
  | .real value _ => doubleChars value

/-- The text of a truth value. -/
def booleanChars : Bool → List Char
  | true => ['t', 'r', 'u', 'e']
  | false => ['f', 'a', 'l', 's', 'e']

/-- Puts commas between texts. -/
def joinChars : List (List Char) → List Char
  | [] => []
  | [last] => last
  | first :: rest => first ++ ',' :: joinChars rest

/-- An array of elements that are written already. -/
def arrayChars (elements : List (List Char)) : List Char :=
  '[' :: joinChars elements ++ [']']

/-- A member of an object whose value is written already. -/
def memberChars (key : String) (value : List Char) : List Char :=
  textChars key ++ ':' :: value

/-- An object of members that are written already. -/
def objectChars (members : List (String × List Char)) : List Char :=
  '\x7b' :: joinChars (members.map fun member => memberChars member.1 member.2) ++ ['\x7d']

/-- The text of a document tree. -/
def chars : Json → List Char
  | .null => ['n', 'u', 'l', 'l']
  | .boolean value => booleanChars value
  | .number value => numberChars value
  | .text value => textChars value
  | .array elements => arrayChars (elementsChars elements)
  | .object members => objectChars (membersChars members)
where
  /-- The texts of the elements of an array. -/
  elementsChars : List Json → List (List Char)
    | [] => []
    | element :: rest => element.chars :: elementsChars rest
  /-- The members of an object with their values as texts. -/
  membersChars : List (String × Json) → List (String × List Char)
    | [] => []
    | (key, value) :: rest => (key, value.chars) :: membersChars rest

/-- The text of a document tree as a string. -/
def print (json : Json) : String :=
  String.ofList json.chars

/-- The text of a dictionary of values. -/
def dictionaryChars (dictionary : Dictionary Json) : List Char :=
  chars (.object dictionary.entries)

end Json

end PhysicsScene
