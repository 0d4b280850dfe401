import PhysicsScene.Text.Utf8

/-!
# Compile requests

The source text goes to the compiler as the one field of a web form. In a form, letters, digits
and `*`, `-`, `.`, `_` stand for themselves, a plus sign for a space, and any other byte of the
UTF-8 text is written as a percent sign with two hexadecimal digits.
-/

namespace PhysicsScene

namespace Compiler

/-- Whether a byte of a form stands for itself. -/
def isPlainByte (byte : UInt8) : Bool :=
  let char := Char.ofNat byte.toNat
  char.isAlphanum || char = '*' || char = '-' || char = '.' || char = '_'

/-- The upper-case hexadecimal digit of a value below sixteen. -/
def hexDigit (value : Nat) : Char :=
  (Nat.digitChar value).toUpper

/-- A byte as it stands in a form. -/
def formByte (byte : UInt8) : List Char :=
  if isPlainByte byte then [Char.ofNat byte.toNat]
  else if byte = 0x20 then ['+']
  else ['%', hexDigit (byte.toNat / 16), hexDigit (byte.toNat % 16)]

/-- A text as it stands in a form. -/
def formText (text : String) : String :=
  String.ofList ((Utf8.encode text).flatMap formByte)

/-- The form that asks for a source text to be compiled. -/
def form (source : String) : String :=
  "source=" ++ formText source

/-- The kind of content that a request carries. -/
def contentType : String := "application/x-www-form-urlencoded"

end Compiler

end PhysicsScene
