import PhysicsScene.Json.Quoted

/-!
# Arrays and objects

Both containers are read by folding over their parts: the caller says how one element or one
member changes a state, and the readers here see to brackets, commas, keys and colons. Each
nesting costs one unit of a depth budget, and a bracket that opens when the budget is spent
breaks the grammar.
-/

namespace PhysicsScene

namespace Reader

/-- Expects an element after a comma: neither the end of the text nor a closing bracket. -/
def afterComma (closing : Char) : Reader Unit := do
  match ← significant with
  | none => fail .truncated
  | some char => if char = closing then fail .malformed else pure ()

/--
Looks for the next part of a container and takes the comma before it off. The answer is `false`
at the closing bracket, which is taken off as well.
-/
def nextPart (closing : Char) (isFirst : Bool) : Reader Bool := do
  match ← significant with
  | none => fail .truncated
  | some char =>
      if char = closing then do
        drop
        pure false
      else if isFirst then pure true
      else if char = ',' then do
        drop
        afterComma closing
        pure true
      else fail .malformed

/-- Folds over the elements of an array whose bracket is open. -/
def elements {σ : Type} (element : σ → Reader σ) (state : σ) : Reader σ :=
  iterate (fun (isFirst, state) => do
    if ← nextPart ']' isFirst then
      let next ← element state
      pure (.inl (false, next))
    else pure (.inr state)) (true, state)

/-- Takes the colon between a key and its value off. -/
def colon : Reader Unit := do
  match ← significant with
  | none => fail .truncated
  | some char => if char = ':' then drop else fail .malformed

/-- Reads a key that must come next. -/
def key : Reader String := do
  match ← peek with
  | some '"' => do
      drop
      Quoted.text
  | _ => fail .malformed

/--
Folds over the members of an object whose brace is open. A member is handed over after its key,
so the caller takes the colon off.
-/
def members {σ : Type} (member : σ → String → Reader σ) (state : σ) : Reader σ :=
  iterate (fun (isFirst, state) => do
    if ← nextPart '\x7d' isFirst then
      let next ← member state (← key)
      pure (.inl (false, next))
    else pure (.inr state)) (true, state)

/-- Spends one unit of the depth budget on an opening bracket and takes the bracket off. -/
def nested {α : Type} (depth : Nat) (inside : Nat → Reader α) : Reader α :=
  match depth with
  | 0 => fail .malformed
  | depth + 1 => do
      drop
      inside depth

end Reader

end PhysicsScene
