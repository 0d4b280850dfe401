import PhysicsScene.Json.Container

/-!
# What readers take

`Reader.taken?` forgets why a reader fails: what is left is an option, and sequences of readers are
sequences of options. A loop is bounded by the length of the text. If each of its rounds takes at
least one character, the bound never matters, and a loop is its first round followed by the rest of
the loop (`taken?_iterate`).
-/

namespace PhysicsScene

namespace Reader

variable {α β σ : Type}

/-- What a reader gives and the text that it leaves, if it does not fail. -/
def taken? (reader : Reader α) (text : List Char) : Option (α × List Char) :=
  match reader text with
  | .ok result => some result
  | .error _ => none

theorem taken?_eq_some_iff (reader : Reader α) (text : List Char) (result : α × List Char) :
    reader.taken? text = some result ↔ reader text = .ok result := by
  rw [taken?]
  cases reader text with
  | ok found => simp
  | error fault => simp

@[simp]
theorem taken?_pure (value : α) (text : List Char) :
    taken? (pure value) text = some (value, text) :=
  rfl

@[simp]
theorem taken?_fail (fault : Fault) (text : List Char) :
    taken? (fail fault : Reader α) text = none :=
  rfl

@[simp]
theorem taken?_peek (text : List Char) : peek.taken? text = some (text.head?, text) :=
  rfl

@[simp]
theorem taken?_drop (text : List Char) : drop.taken? text = some ((), text.tail) :=
  rfl

@[simp]
theorem taken?_significant (text : List Char) :
    significant.taken? text = some ((text.dropWhile isBlank).head?, text.dropWhile isBlank) :=
  rfl

theorem bind_apply (reader : Reader β) (next : β → Reader α) (text : List Char) :
    (reader >>= next) text = reader text >>= fun result => next result.1 result.2 :=
  rfl

@[simp]
theorem taken?_bind (reader : Reader β) (next : β → Reader α) (text : List Char) :
    taken? (reader >>= next) text =
      (reader.taken? text).bind fun result => (next result.1).taken? result.2 := by
  rw [taken?, taken?, bind_apply]
  cases reader text with
  | error fault => rfl
  | ok result => rfl

@[simp]
theorem taken?_map (change : β → α) (reader : Reader β) (text : List Char) :
    taken? (change <$> reader) text =
      (reader.taken? text).map fun result => (change result.1, result.2) := by
  rw [map_eq_pure_bind, taken?_bind]
  simp only [taken?_pure]
  cases reader.taken? text with
  | none => rfl
  | some result => rfl

@[simp]
theorem taken?_ite (condition : Prop) [Decidable condition] (reader other : Reader α)
    (text : List Char) :
    taken? (if condition then reader else other) text =
      if condition then reader.taken? text else other.taken? text := by
  split
  · rfl
  · rfl

/-- The reader never leaves more than it was given. -/
def Shrinks (reader : Reader α) : Prop :=
  ∀ text value rest, reader.taken? text = some (value, rest) → rest.length ≤ text.length

/-- The reader leaves less than it was given. -/
def Consumes (reader : Reader α) : Prop :=
  ∀ text value rest, reader.taken? text = some (value, rest) → rest.length < text.length

theorem Consumes.shrinks {reader : Reader α} (consumes : reader.Consumes) : reader.Shrinks :=
  fun text value rest taken => Nat.le_of_lt (consumes text value rest taken)

theorem shrinks_pure (value : α) : Shrinks (pure value) := by
  intro text found rest taken
  cases taken
  exact Nat.le_refl _

theorem consumes_fail (fault : Fault) : Consumes (fail fault : Reader α) := by
  intro text value rest taken
  cases taken

theorem shrinks_peek : peek.Shrinks := by
  intro text value rest taken
  cases taken
  exact Nat.le_refl _

theorem shrinks_drop : drop.Shrinks := by
  intro text value rest taken
  cases taken
  simp

theorem shrinks_significant : significant.Shrinks := by
  intro text value rest taken
  cases taken
  exact (List.dropWhile_suffix isBlank).length_le

theorem Shrinks.bind {reader : Reader β} {next : β → Reader α} (first : reader.Shrinks)
    (later : ∀ value, (next value).Shrinks) : Shrinks (reader >>= next) := by
  intro text value rest taken
  rw [taken?_bind, Option.bind_eq_some_iff] at taken
  rcases taken with ⟨⟨between, left⟩, takenFirst, takenLater⟩
  exact Nat.le_trans (later between left value rest takenLater) (first text between left takenFirst)

theorem Consumes.bind {reader : Reader β} {next : β → Reader α} (first : reader.Consumes)
    (later : ∀ value, (next value).Shrinks) : Consumes (reader >>= next) := by
  intro text value rest taken
  rw [taken?_bind, Option.bind_eq_some_iff] at taken
  rcases taken with ⟨⟨between, left⟩, takenFirst, takenLater⟩
  exact Nat.lt_of_le_of_lt (later between left value rest takenLater)
    (first text between left takenFirst)

theorem Shrinks.bind_consumes {reader : Reader β} {next : β → Reader α} (first : reader.Shrinks)
    (later : ∀ value, (next value).Consumes) : Consumes (reader >>= next) := by
  intro text value rest taken
  rw [taken?_bind, Option.bind_eq_some_iff] at taken
  rcases taken with ⟨⟨between, left⟩, takenFirst, takenLater⟩
  exact Nat.lt_of_lt_of_le (later between left value rest takenLater)
    (first text between left takenFirst)

theorem Shrinks.ite {condition : Prop} [Decidable condition] {reader other : Reader α}
    (shrinks : reader.Shrinks) (otherShrinks : other.Shrinks) :
    Shrinks (if condition then reader else other) := by
  split
  · exact shrinks
  · exact otherShrinks

theorem Shrinks.map {reader : Reader β} (shrinks : reader.Shrinks) (change : β → α) :
    Shrinks (change <$> reader) := by
  rw [map_eq_pure_bind]
  exact shrinks.bind fun _ => shrinks_pure _

/-- A reader that looks ahead first may count on the character that it saw. -/
theorem consumes_peek_bind {next : Option Char → Reader α} (atEnd : (next none).Consumes)
    (more : ∀ char tail value rest, (next (some char)).taken? (char :: tail) = some (value, rest) →
      rest.length ≤ tail.length) : Consumes (peek >>= next) := by
  intro text value rest taken
  rw [taken?_bind, taken?_peek, Option.bind_some] at taken
  cases text with
  | nil => exact atEnd _ _ _ taken
  | cons char tail => exact Nat.lt_succ_of_le (more char tail value rest taken)

theorem consumes_significant_bind {next : Option Char → Reader α} (atEnd : (next none).Consumes)
    (more : ∀ char tail value rest, (next (some char)).taken? (char :: tail) = some (value, rest) →
      rest.length ≤ tail.length) : Consumes (significant >>= next) := by
  intro text value rest taken
  have blanks := (List.dropWhile_suffix isBlank (l := text)).length_le
  rw [taken?_bind, taken?_significant, Option.bind_some] at taken
  cases left : text.dropWhile isBlank with
  | nil =>
      rw [left] at taken
      exact Nat.lt_of_lt_of_le (atEnd _ _ _ taken) (Nat.zero_le _)
  | cons char tail =>
      rw [left] at taken blanks
      exact Nat.lt_of_lt_of_le (Nat.lt_succ_of_le (more char tail value rest taken)) blanks

theorem Shrinks.after_drop {next : Reader α} (shrinks : next.Shrinks) (char : Char)
    (tail : List Char) {value : α} {rest : List Char}
    (taken : taken? (do drop; next) (char :: tail) = some (value, rest)) :
    rest.length ≤ tail.length :=
  shrinks tail value rest (by simpa using taken)

theorem shrinks_word (letters : List Char) : (word letters).Shrinks := by
  induction letters with
  | nil => exact shrinks_pure ()
  | cons letter letters ih =>
      apply shrinks_peek.bind
      rintro (_ | char)
      · exact (consumes_fail .truncated).shrinks
      · simp only
        split
        · exact shrinks_drop.bind fun _ => ih
        · exact (consumes_fail .malformed).shrinks

theorem consumes_word_cons (letter : Char) (letters : List Char) :
    (word (letter :: letters)).Consumes := by
  apply consumes_peek_bind
  · exact consumes_fail .truncated
  · intro char tail value rest taken
    simp only at taken
    split at taken
    · exact (shrinks_word letters).after_drop char tail taken
    · cases taken

section Loop

variable {step : σ → Reader (σ ⊕ α)}

/-- What follows a round: the rest of the loop, or nothing if it was the last. -/
def continueWith (loop : σ → Reader α) : (σ ⊕ α) × List Char → Option (α × List Char)
  | (.inl next, rest) => (loop next).taken? rest
  | (.inr result, rest) => some (result, rest)

theorem taken?_iterateWithin_nil (state : σ) (text : List Char) :
    (iterateWithin step [] state).taken? text =
      ((step state).taken? text).bind (continueWith fun _ => fail .malformed) := by
  simp only [taken?, iterateWithin]
  rcases step state text with fault | ⟨next | result, rest⟩
  · rfl
  · rfl
  · rfl

theorem taken?_iterateWithin_cons (char : Char) (bound : List Char) (state : σ)
    (text : List Char) :
    (iterateWithin step (char :: bound) state).taken? text =
      ((step state).taken? text).bind (continueWith (iterateWithin step bound)) := by
  simp only [taken?, iterateWithin]
  rcases step state text with fault | ⟨next | result, rest⟩
  · rfl
  · rfl
  · rfl

theorem shrinks_iterateWithin (shrinks : ∀ state, (step state).Shrinks) (bound : List Char)
    (state : σ) : (iterateWithin step bound state).Shrinks := by
  intro text value rest taken
  induction bound generalizing state text with
  | nil =>
      rw [taken?_iterateWithin_nil, Option.bind_eq_some_iff] at taken
      rcases taken with ⟨⟨next | result, left⟩, stepped, ended⟩
      · cases ended
      · cases ended
        exact shrinks state text _ _ stepped
  | cons char bound ih =>
      rw [taken?_iterateWithin_cons, Option.bind_eq_some_iff] at taken
      rcases taken with ⟨⟨next | result, left⟩, stepped, ended⟩
      · exact Nat.le_trans (ih next left ended) (shrinks state text _ _ stepped)
      · cases ended
        exact shrinks state text _ _ stepped

theorem shrinks_iterate (shrinks : ∀ state, (step state).Shrinks) (state : σ) :
    (iterate step state).Shrinks :=
  fun text => shrinks_iterateWithin shrinks text state text

/-- Each round that is not the last takes at least one character. -/
def Progresses (step : σ → Reader (σ ⊕ α)) : Prop :=
  ∀ state text next rest, (step state).taken? text = some (.inl next, rest) →
    rest.length < text.length

/-- Without a text there is no other round than the last, so nothing can follow. -/
theorem Progresses.bind_nil (progresses : Progresses step) (loop other : σ → Reader α)
    (state : σ) : ((step state).taken? []).bind (continueWith loop) =
      ((step state).taken? []).bind (continueWith other) := by
  rcases stepped : (step state).taken? [] with _ | ⟨next | result, rest⟩
  · rfl
  · exact absurd (progresses state [] next rest stepped) (Nat.not_lt_zero _)
  · rfl

/-- A bound that is not shorter than the text does not matter. -/
theorem taken?_iterateWithin_of_le (progresses : Progresses step) {bound other text : List Char}
    (enough : text.length ≤ bound.length) (otherEnough : text.length ≤ other.length) (state : σ) :
    (iterateWithin step bound state).taken? text =
      (iterateWithin step other state).taken? text := by
  induction bound generalizing other text state with
  | nil =>
      have noText : text = [] := List.eq_nil_of_length_eq_zero (Nat.le_zero.1 enough)
      subst noText
      cases other with
      | nil => rfl
      | cons char other =>
          rw [taken?_iterateWithin_nil, taken?_iterateWithin_cons]
          exact progresses.bind_nil _ _ state
  | cons char bound ih =>
      cases other with
      | nil =>
          have noText : text = [] := List.eq_nil_of_length_eq_zero (Nat.le_zero.1 otherEnough)
          subst noText
          rw [taken?_iterateWithin_nil, taken?_iterateWithin_cons]
          exact progresses.bind_nil _ _ state
      | cons otherChar other =>
          rw [taken?_iterateWithin_cons, taken?_iterateWithin_cons]
          rcases stepped : (step state).taken? text with _ | ⟨next | result, rest⟩
          · rfl
          · have shorter := progresses state text next rest stepped
            simp only [List.length_cons] at enough otherEnough
            apply ih
            · omega
            · omega
          · rfl

/-- A loop that makes progress is its first round and then the rest of the loop. -/
theorem taken?_iterate (progresses : Progresses step) (state : σ) (text : List Char) :
    (iterate step state).taken? text =
      ((step state).taken? text).bind (continueWith (iterate step)) := by
  have longer : text.length ≤ (' ' :: text).length := Nat.le_succ _
  have unbounded : (iterate step state).taken? text =
      (iterateWithin step (' ' :: text) state).taken? text :=
    taken?_iterateWithin_of_le progresses (Nat.le_refl _) longer state
  rw [unbounded, taken?_iterateWithin_cons]
  rcases stepped : (step state).taken? text with _ | ⟨next | result, rest⟩
  · rfl
  · have shorter := progresses state text next rest stepped
    exact taken?_iterateWithin_of_le progresses (Nat.le_of_lt shorter) (Nat.le_refl _) next
  · rfl

end Loop

theorem shrinks_afterComma (closing : Char) : (afterComma closing).Shrinks := by
  apply shrinks_significant.bind
  rintro (_ | char)
  · exact (consumes_fail .truncated).shrinks
  · simp only
    split
    · exact (consumes_fail .malformed).shrinks
    · exact shrinks_pure ()

theorem shrinks_nextPart (closing : Char) (isFirst : Bool) :
    (nextPart closing isFirst).Shrinks := by
  apply shrinks_significant.bind
  rintro (_ | char)
  · exact (consumes_fail .truncated).shrinks
  · simp only
    split
    · exact shrinks_drop.bind fun _ => shrinks_pure false
    · split
      · exact shrinks_pure true
      · split
        · apply shrinks_drop.bind
          intro _
          exact (shrinks_afterComma closing).bind fun _ => shrinks_pure true
        · exact (consumes_fail .malformed).shrinks

/-- A container ends at its closing bracket, which is taken off. -/
theorem dropWhile_eq_of_nextPart_false {closing : Char} {isFirst : Bool} {text rest : List Char}
    (ends : (nextPart closing isFirst).taken? text = some (false, rest)) :
    text.dropWhile isBlank = closing :: rest := by
  rw [nextPart, taken?_bind, taken?_significant, Option.bind_some] at ends
  cases left : text.dropWhile isBlank with
  | nil =>
      rw [left] at ends
      cases ends
  | cons char tail =>
      simp only [left, List.head?_cons, taken?_ite] at ends
      split at ends
      · next isClosing =>
        cases ends
        rw [isClosing]
        rfl
      · split at ends
        · cases ends
        · split at ends
          · simp only [taken?_bind, taken?_pure, Option.bind_eq_some_iff] at ends
            rcases ends with ⟨_, _, _, _, ended⟩
            cases ended
          · cases ends

theorem length_lt_of_nextPart_false {closing : Char} {isFirst : Bool} {text rest : List Char}
    (ends : (nextPart closing isFirst).taken? text = some (false, rest)) :
    rest.length < text.length := by
  have shrunk := (List.dropWhile_suffix isBlank (l := text)).length_le
  rw [dropWhile_eq_of_nextPart_false ends, List.length_cons] at shrunk
  exact shrunk

/-- A container goes on if something else than its closing bracket is next. -/
theorem exists_of_nextPart_true {closing : Char} {isFirst : Bool} {text rest : List Char}
    (goesOn : (nextPart closing isFirst).taken? text = some (true, rest)) :
    ∃ char tail, text.dropWhile isBlank = char :: tail ∧ char ≠ closing := by
  rw [nextPart, taken?_bind, taken?_significant, Option.bind_some] at goesOn
  cases left : text.dropWhile isBlank with
  | nil =>
      rw [left] at goesOn
      cases goesOn
  | cons char tail =>
      refine ⟨char, tail, rfl, ?_⟩
      rintro rfl
      simp [left] at goesOn

theorem shrinks_colon : colon.Shrinks := by
  apply shrinks_significant.bind
  rintro (_ | char)
  · exact (consumes_fail .truncated).shrinks
  · simp only
    split
    · exact shrinks_drop
    · exact (consumes_fail .malformed).shrinks

end Reader

end PhysicsScene
