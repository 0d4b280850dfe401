import PhysicsScene.Text.Invisible

/-!
# Quoted names

A list of names for a reader: each name stands between quotation marks, and what could not be seen
there is escaped.
-/

namespace PhysicsScene

namespace QuotedName

/-- A character in braces, by its number. -/
def byNumber (char : Char) : List Char :=
  '\\' :: 'u' :: '\x7b' :: Nat.toDigits 16 char.toNat ++ ['\x7d']

/-- A character as it stands in a quoted name. -/
def nameChar (char : Char) : List Char :=
  match char with
  | '"' => ['\\', '"']
  | '\\' => ['\\', '\\']
  | '\x00' => ['\\', '0']
  | '\t' => ['\\', 't']
  | '\r' => ['\\', 'r']
  | '\n' => ['\\', 'n']
  | _ => if Invisible.contains char then byNumber char else [char]

/-- A name between quotation marks. -/
def name (text : String) : String :=
  String.ofList ('"' :: text.toList.flatMap nameChar ++ ['"'])

/-- Names between brackets. -/
def names (texts : List String) : String :=
  "[" ++ String.intercalate ", " (texts.map name) ++ "]"

end QuotedName

end PhysicsScene
