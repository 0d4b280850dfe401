import PhysicsScene.Text.Direction
import PhysicsScene.Text.Joining
import PhysicsScene.Text.Utf8
import PhysicsScene.Url.Address
import PhysicsScene.Url.EncodedLabel
import PhysicsScene.Url.PlainForm

/-!
# Domain names

A domain name may be written with percent escapes, in capitals, in letters of special shapes and
with characters beyond ASCII. It is first brought to its plain form; then no character may be left
that a domain must not contain, an encoded label must stand for one in plain form, no label starts
with a mark, invisible joiners have an effect, and where something is written to the left, every
label is of one direction.
-/

namespace PhysicsScene

namespace Url

/-- The bytes of a text in which a percent sign with two hexadecimal digits stands for a byte. -/
def percentDecode : List UInt8 → List UInt8
  | [] => []
  | [byte] => [byte]
  | [first, second] => [first, second]
  | first :: second :: third :: rest =>
      let high := Digit.value? 16 (Char.ofNat second.toNat)
      let low := Digit.value? 16 (Char.ofNat third.toNat)
      match high, low with
      | some high, some low =>
          if first = 0x25 then UInt8.ofNat (16 * high + low) :: percentDecode rest
          else first :: percentDecode (second :: third :: rest)
      | _, _ => first :: percentDecode (second :: third :: rest)

namespace Domain

/-- ASCII characters that a domain must not contain, beside the controls and the space. -/
def forbidden : List Char :=
  ['%', '#', '/', ':', '<', '>', '?', '@', '[', '\\', ']', '^', '|']

/-- Whether a character of a plain form may stand in a domain. -/
def isAllowed (char : Char) : Bool :=
  ' ' < char && char ≠ '\x7f' && !forbidden.contains char

/-- The characters of a label in plain form; the mark `xn--` tells that it is encoded. -/
def label? (plain : List Char) : Option (List Char) :=
  match plain with
  | 'x' :: 'n' :: '-' :: '-' :: encoded => do
      let label ← EncodedLabel.decode? encoded
      if PlainForm.ofText? label = some label then some label else none
  | _ => some plain

/-- The length of the longest label beyond ASCII. -/
def maxLabelLength : Nat := 1000

/-- Whether a label may stand in a domain. -/
def isLabel (label : List Char) : Bool :=
  !label.head?.any Mark.isMark && Joining.isEffective label &&
    (label.all (· ≤ '\x7f') || label.length ≤ maxLabelLength)

/-- Whether labels may stand in one domain: if any goes to the left, each is of one direction. -/
def areUniform (labels : List (List Char)) : Bool :=
  !labels.any Direction.goesLeft || labels.all Direction.isUniform

/-- The plain form of a domain, if it is valid. -/
def ofHost? (host : List Char) : Option (List Char) := do
  let decoded ← Utf8.strict? (percentDecode (Utf8.encode (String.ofList host)))
  let domain ← PlainForm.ofText? decoded.toList
  let labels ← (domain.splitOn '.').mapM label?
  if domain.all isAllowed && labels.all isLabel && areUniform labels then some domain else none

end Domain

end Url

end PhysicsScene
