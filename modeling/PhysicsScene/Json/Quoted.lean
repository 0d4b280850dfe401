import PhysicsScene.Json.Reader
import PhysicsScene.Text.Digit

/-!
# Strings between quotation marks

`Quoted.text` reads the rest of a string whose opening mark is gone. An escaped code unit outside
the surrogates is a character; a leading surrogate must be followed by an escaped trailing one,
and the two give one character. `Quoted.skip` walks over a string with less care: it checks the
escapes but not how surrogates pair.
-/

namespace PhysicsScene

namespace Quoted

/-- The number of bytes of a text in UTF-8. -/
def byteLength (text : List Char) : Nat :=
  text.foldl (fun length char => length + char.utf8Size) 0

/-- Takes four hexadecimal digits; fewer than four bytes left is an early end of the text. -/
def hexQuad : Reader Nat :=
  fun text =>
    if byteLength (text.take 4) < 4 then .error .truncated
    else
      match (text.take 4).mapM (Digit.value? 16) with
      | some [a, b, c, d] => .ok (((a * 16 + b) * 16 + c) * 16 + d, text.drop 4)
      | _ => .error .malformed

/-- The character that an escape letter other than `u` stands for. -/
def escapeLetter? : Char → Option Char
  | '"' => some '"'
  | '\\' => some '\\'
  | '/' => some '/'
  | 'b' => some '\x08'
  | 'f' => some '\x0c'
  | 'n' => some '\n'
  | 'r' => some '\r'
  | 't' => some '\t'
  | _ => none

/-- Takes one given character, if it is next. -/
def required (expected : Char) : Reader Unit := do
  match ← Reader.peek with
  | none => Reader.fail .truncated
  | some char => if char = expected then Reader.drop else Reader.fail .malformed

/-- The character of a code unit, with the trailing surrogate that a leading one requires. -/
def unicodeEscape : Reader Char := do
  let unit ← hexQuad
  if 0xDC00 ≤ unit ∧ unit ≤ 0xDFFF then Reader.fail .malformed
  else if 0xD800 ≤ unit ∧ unit ≤ 0xDBFF then do
    required '\\'
    required 'u'
    let trailing ← hexQuad
    if 0xDC00 ≤ trailing ∧ trailing ≤ 0xDFFF then
      pure (Char.ofNat (0x10000 + (unit - 0xD800) * 0x400 + (trailing - 0xDC00)))
    else Reader.fail .malformed
  else pure (Char.ofNat unit)

/-- The character of an escape whose backslash is gone. -/
def escape : Reader Char := do
  match ← Reader.peek with
  | none => Reader.fail .truncated
  | some 'u' => do
      Reader.drop
      unicodeEscape
  | some letter =>
      match escapeLetter? letter with
      | some char => do
          Reader.drop
          pure char
      | none => Reader.fail .malformed

/-- One step through a string; `read` holds the characters read so far, the last first. -/
def textStep (read : List Char) : Reader (List Char ⊕ List Char) := do
  match ← Reader.peek with
  | none => Reader.fail .truncated
  | some '"' => do
      Reader.drop
      pure (.inr read.reverse)
  | some '\\' => do
      Reader.drop
      let char ← escape
      pure (.inl (char :: read))
  | some char =>
      if char.toNat < 0x20 then Reader.fail .malformed
      else do
        Reader.drop
        pure (.inl (char :: read))

/-- The rest of a string whose opening mark is gone. -/
def text : Reader String :=
  String.ofList <$> Reader.iterate textStep []

/-- Walks over an escape whose backslash is gone. -/
def skipEscape : Reader Unit := do
  match ← Reader.peek with
  | none => Reader.fail .truncated
  | some 'u' => do
      Reader.drop
      let _ ← hexQuad
      pure ()
  | some letter =>
      if (escapeLetter? letter).isSome then Reader.drop else Reader.fail .malformed

/-- One step over a string. -/
def skipStep (_ : Unit) : Reader (Unit ⊕ Unit) := do
  match ← Reader.peek with
  | none => Reader.fail .truncated
  | some '"' => do
      Reader.drop
      pure (.inr ())
  | some '\\' => do
      Reader.drop
      skipEscape
      pure (.inl ())
  | some char =>
      if char.toNat < 0x20 then Reader.fail .malformed
      else do
        Reader.drop
        pure (.inl ())

/-- Walks over the rest of a string whose opening mark is gone. -/
def skip : Reader Unit :=
  Reader.iterate skipStep ()

end Quoted

end PhysicsScene
