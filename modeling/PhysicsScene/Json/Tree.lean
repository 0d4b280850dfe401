import PhysicsScene.Json.Container
import PhysicsScene.Json.Numeral

/-!
# Reading document trees

`Json.read` reads one value of any kind, with at most `depth` brackets open at a time;
`Json.parse` reads a whole text. `Json.skip` walks over a value that nobody wants. It checks the
grammar but keeps its own stack of open brackets, so it has no depth limit, and it does not look
at the range of numbers or at how surrogates pair.
-/

namespace PhysicsScene

namespace Json

/-- How many brackets of a text may be open at a time. -/
def depthLimit : Nat := 127

/-- Whether a numeral can begin with a character. -/
def startsNumeral (char : Char) : Bool :=
  char = '-' || (Numeral.digit? char).isSome

/--
Reads a value without brackets, of which the first character is known; `bracket` reads the
others.
-/
def readScalarOr (bracket : Char → Reader Json) (first : Char) : Reader Json :=
  if first = 'n' then do
    Reader.word ['n', 'u', 'l', 'l']
    pure .null
  else if first = 't' then do
    Reader.word ['t', 'r', 'u', 'e']
    pure (.boolean true)
  else if first = 'f' then do
    Reader.word ['f', 'a', 'l', 's', 'e']
    pure (.boolean false)
  else if first = '"' then do
    Reader.drop
    let value ← Quoted.text
    pure (.text value)
  else if startsNumeral first then do
    let value ← Numeral.number
    pure (.number value)
  else bracket first

/-- Reads an array or an object whose parts are read by `value`. -/
def readBracket (value : Reader Json) (first : Char) : Reader Json :=
  if first = '[' then do
    Reader.drop
    let elements ← Reader.elements (fun read => do pure ((← value) :: read)) []
    pure (.array elements.reverse)
  else if first = '\x7b' then do
    Reader.drop
    let members ← Reader.members (fun read key => do
      Reader.colon
      pure ((key, ← value) :: read)) []
    pure (.object members.reverse)
  else Reader.fail .malformed

/-- Reads a value with at most `depth` open brackets. -/
def read : (depth : Nat) → Reader Json
  | 0 => do
      match ← Reader.significant with
      | none => Reader.fail .truncated
      | some first => readScalarOr (fun _ => Reader.fail .malformed) first
  | depth + 1 => do
      match ← Reader.significant with
      | none => Reader.fail .truncated
      | some first => readScalarOr (readBracket (read depth)) first

/-- Reads a whole text with the full depth budget. -/
def readWhole {α : Type} (reader : (depth : Nat) → Reader α) (text : String) : Except Fault α :=
  (reader depthLimit).run text.toList

/-- Reads a whole text as one canonical value. -/
def parse (text : String) : Except Fault Json :=
  canonical <$> readWhole read text

/-- The open brackets around a point of a text, the innermost first; `true` is a brace. -/
abbrev Brackets := List Bool

/-- The closing counterpart of a bracket. -/
def closing (isBrace : Bool) : Char :=
  if isBrace then '\x7d' else ']'

/-- Walks over a key and its colon. -/
def skipKey : Reader Unit := do
  match ← Reader.significant with
  | some '"' => do
      Reader.drop
      Quoted.skip
      Reader.colon
  | none => Reader.fail .truncated
  | some _ => Reader.fail .malformed

/-- Walks over a value without brackets, of which the first character is known. -/
def skipScalar (first : Char) : Reader Unit :=
  if first = 'n' then Reader.word ['n', 'u', 'l', 'l']
  else if first = 't' then Reader.word ['t', 'r', 'u', 'e']
  else if first = 'f' then Reader.word ['f', 'a', 'l', 's', 'e']
  else if first = '"' then do
    Reader.drop
    Quoted.skip
  else if startsNumeral first then do
    let _ ← Numeral.read .malformed
    pure ()
  else Reader.fail .malformed

/--
Walks over the beginning of a value inside some brackets: over all of it if it has no brackets,
else over its opening bracket. The answer says whether a bracket just opened, and what is open.
-/
def skipStart (around : Brackets) : Reader (Bool × Brackets) := do
  match ← Reader.significant with
  | none => Reader.fail .truncated
  | some first =>
      if first = '[' || first = '\x7b' then do
        Reader.drop
        pure (true, (first = '\x7b') :: around)
      else do
        skipScalar first
        pure (false, around)

/-- One step of a walk: over the next part of the innermost bracket, or over its end. -/
def skipStep : Bool × Brackets → Reader ((Bool × Brackets) ⊕ Unit)
  | (_, []) => pure (.inr ())
  | (isFirst, isBrace :: around) => do
      if ← Reader.nextPart (closing isBrace) isFirst then
        if isBrace then skipKey
        .inl <$> skipStart (isBrace :: around)
      else pure (.inl (false, around))

/-- Walks over one value. -/
def skip : Reader Unit := do
  let start ← skipStart []
  Reader.iterate skipStep start

end Json

end PhysicsScene
