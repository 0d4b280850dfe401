/-!
# Encoded labels

A label with characters beyond ASCII can be written in ASCII: first its ASCII characters and a
hyphen, if it has any, then a sequence of numbers. Going over all places of the label for one
character after the other, each number says how many places are passed over before the next
character is put in. A number has its lowest digit first, and what counts as its last digit depends
on a bias, which follows the size of the numbers so far.
-/

namespace PhysicsScene

namespace Url

namespace EncodedLabel

/-- The value of a digit: letters first, then figures. -/
def digit? (char : Char) : Option Nat :=
  if 'a' ≤ char ∧ char ≤ 'z' then some (char.toNat - 'a'.toNat)
  else if '0' ≤ char ∧ char ≤ '9' then some (char.toNat - '0'.toNat + 26)
  else none

/-- The least digit that does not end a number at a place, given the bias. -/
def threshold (place bias : Nat) : Nat :=
  min 26 (max 1 (place - bias))

/-- Scales a difference down until it is small. -/
def settle : (limit : Nat) → (delta bias : Nat) → Nat
  | 0, _, bias => bias
  | limit + 1, delta, bias =>
      if delta ≤ 455 then bias + 36 * delta / (delta + 38)
      else settle limit (delta / 35) (bias + 36)

/-- The bias after a character was put in, as one of `count`. -/
def nextBias (delta count : Nat) (isFirst : Bool) : Nat :=
  let scaled := if isFirst then delta / 700 else delta / 2
  settle 64 (scaled + scaled / count) 0

/-- Adds a number to `value`; the sum and the weights of its digits have 32 bits. -/
def number? (bias : Nat) : List Char → (place weight value : Nat) → Option (Nat × List Char)
  | [], _, _, _ => none
  | char :: rest, place, weight, value => do
      let digit ← digit? char
      let value := value + digit * weight
      let least := threshold place bias
      if UInt32.size ≤ value then none
      else if digit < least then some (value, rest)
      else if UInt32.size ≤ weight * (36 - least) then none
      else number? bias rest (place + 36) (weight * (36 - least)) value

/--
Puts the characters that a text encodes into a label, from a code point and a position on; at most
`limit` of them.
-/
def insertAll? : (limit : Nat) → (code position bias : Nat) → (label text : List Char) →
    Option (List Char)
  | _, _, _, _, label, [] => some label
  | 0, _, _, _, _, _ => none
  | limit + 1, code, position, bias, label, text => do
      let (passed, rest) ← number? bias text 36 1 position
      let count := label.length + 1
      let code := code + passed / count
      if code < 0xD800 ∨ 0xDFFF < code ∧ code < 0x110000 then
        insertAll? limit code (passed % count + 1)
          (nextBias (passed - position) count (position = 0))
          (label.insertIdx (passed % count) (Char.ofNat code)) rest
      else none

/-- Splits a text at its last hyphen, before which something must stand. -/
def split? (text : List Char) : Option (List Char × List Char) :=
  let after := (text.reverse.takeWhile (· ≠ '-')).reverse
  if after.length = text.length then some ([], text)
  else if after.length + 1 = text.length then none
  else some (text.take (text.length - after.length - 1), after)

/-- The longest text that is decoded. -/
def maxLength : Nat := 2000

/-- The label beyond ASCII that a text in small letters encodes. -/
def decode? (text : List Char) : Option (List Char) := do
  if text.any (fun char => '\x7f' < char) || maxLength < text.length then none
  else
    let (label, encoded) ← split? text
    if encoded.isEmpty then none
    else insertAll? encoded.length 0x80 0 72 label encoded

end EncodedLabel

end Url

end PhysicsScene
