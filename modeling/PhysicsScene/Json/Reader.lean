/-!
# Reading text from the left

A reader takes characters from the front of a text or stops at the first fault. Faults are of
three kinds: the text breaks the grammar, it ends too early, or it is well formed but not of the
kind that was asked for. Loops go through `Reader.iterate`, which runs a step until the step says
it is done; every step takes at least one character, so the text itself bounds the loop.
-/

namespace PhysicsScene

/-- Why a text was not read. -/
inductive Fault where
  /-- The text breaks the grammar. -/
  | malformed
  /-- The text ends where more was needed. -/
  | truncated
  /-- The text is well formed but does not have the kind or the fields that were asked for. -/
  | mismatched
deriving DecidableEq, Repr

/-- Takes characters from the front of a text. -/
abbrev Reader (α : Type) : Type := StateT (List Char) (Except Fault) α

namespace Reader

/-- Stops with a fault. -/
def fail {α : Type} (fault : Fault) : Reader α :=
  fun _ => .error fault

/-- Space, tab, line feed and carriage return. -/
def isBlank (char : Char) : Bool :=
  char = ' ' || char = '\t' || char = '\n' || char = '\r'

/-- The next character, which stays in the text. -/
def peek : Reader (Option Char) :=
  fun text => .ok (text.head?, text)

/-- Takes one character off. -/
def drop : Reader Unit :=
  fun text => .ok ((), text.tail)

/-- Takes blanks off and gives the next character, which stays in the text. -/
def significant : Reader (Option Char) :=
  fun text =>
    let rest := text.dropWhile isBlank
    .ok (rest.head?, rest)

/-- Takes the given characters off, one by one. -/
def word : List Char → Reader Unit
  | [] => pure ()
  | letter :: letters => do
      match ← peek with
      | none => fail .truncated
      | some char => if char = letter then do drop; word letters else fail .malformed

/-- Runs a step until it gives a result, once more than there are characters in `bound`. -/
def iterateWithin {σ α : Type} (step : σ → Reader (σ ⊕ α)) :
    (bound : List Char) → σ → Reader α
  | [], state => fun text =>
      match step state text with
      | .error fault => .error fault
      | .ok (.inl _, _) => .error .malformed
      | .ok (.inr result, rest) => .ok (result, rest)
  | _ :: bound, state => fun text =>
      match step state text with
      | .error fault => .error fault
      | .ok (.inl next, rest) => iterateWithin step bound next rest
      | .ok (.inr result, rest) => .ok (result, rest)

/-- Runs a step until it gives a result. -/
def iterate {σ α : Type} (step : σ → Reader (σ ⊕ α)) (state : σ) : Reader α :=
  fun text => iterateWithin step text state text

/-- Runs a reader that must leave nothing but blanks. -/
def run {α : Type} (reader : Reader α) (text : List Char) : Except Fault α :=
  match reader text with
  | .error fault => .error fault
  | .ok (result, rest) =>
      if (rest.dropWhile isBlank).isEmpty then .ok result else .error .malformed

end Reader

end PhysicsScene
