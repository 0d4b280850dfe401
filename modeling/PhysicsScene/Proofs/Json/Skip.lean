import PhysicsScene.Proofs.Json.Form

/-!
# Walking over what nobody wants

`Json.skip` walks over every value that can be read, and leaves the same text behind. It checks less
on its way: a pair of surrogates is one character for the reader but two escapes for the walk, and a
number only has to be well formed. The walk keeps a stack of brackets where the reader nests, so the
statement is about any brackets around: after the start of a value, and after as many rounds as it
takes, the walk stands behind the value with the same brackets around it.
-/

namespace PhysicsScene

open Reader

namespace Numeral

variable (atEnd other : Fault)

theorem taken?_someDigits (text : List Char) :
    (someDigits atEnd).taken? text = (someDigits other).taken? text := by
  simp only [someDigits, taken?_bind, taken?_peek, Option.bind_some]
  cases text with
  | nil => rfl
  | cons char tail => rfl

theorem taken?_wholePart (text : List Char) :
    (wholePart atEnd).taken? text = (wholePart other).taken? text := by
  simp only [wholePart, taken?_bind, taken?_peek, Option.bind_some]
  cases text with
  | nil => rfl
  | cons char tail =>
      simp only [List.head?_cons]
      split
      · rfl
      · rfl
      · exact taken?_someDigits atEnd other _

theorem taken?_fractionPart (text : List Char) :
    (fractionPart atEnd).taken? text = (fractionPart other).taken? text := by
  simp only [fractionPart, taken?_bind, taken?_peek, Option.bind_some]
  split
  · simp only [taken?_bind, taken?_map, taken?_someDigits atEnd other]
  · rfl

theorem taken?_exponentPart (text : List Char) :
    (exponentPart atEnd).taken? text = (exponentPart other).taken? text := by
  simp only [exponentPart, taken?_bind, taken?_peek, Option.bind_some]
  split
  · simp only [taken?_bind, taken?_ite, taken?_someDigits atEnd other]
  · rfl

/-- What a numeral is does not depend on the fault that is reported if the text ends inside. -/
theorem taken?_read (text : List Char) : (read atEnd).taken? text = (read other).taken? text := by
  simp only [read, taken?_bind, taken?_ite, taken?_wholePart atEnd other,
    taken?_fractionPart atEnd other, taken?_exponentPart atEnd other]

theorem consumes_someDigits : (someDigits atEnd).Consumes := by
  apply consumes_peek_bind
  · exact consumes_fail atEnd
  · intro char tail value rest taken
    simp only at taken
    split at taken
    · next isDigit =>
      cases taken
      have dropped : (char :: tail).dropWhile (fun char => (digit? char).isSome) =
          tail.dropWhile fun char => (digit? char).isSome :=
        List.dropWhile_cons_of_pos isDigit
      rw [dropped]
      exact (List.dropWhile_suffix _).length_le
    · cases taken

theorem consumes_wholePart : (wholePart atEnd).Consumes := by
  apply consumes_peek_bind
  · exact consumes_fail atEnd
  · intro char tail value rest taken
    split at taken
    · next impossible => cases impossible
    · simp only [taken?_bind, taken?_drop, taken?_peek, Option.bind_some, List.tail_cons] at taken
      split at taken
      · cases taken
        exact Nat.le_refl _
      · split at taken
        · cases taken
        · cases taken
          exact Nat.le_refl _
    · exact Nat.le_of_lt_succ (consumes_someDigits atEnd _ _ _ taken)

theorem shrinks_fractionPart : (fractionPart atEnd).Shrinks := by
  apply shrinks_peek.bind
  intro next
  split
  · exact shrinks_drop.bind fun _ => (consumes_someDigits atEnd).shrinks.map some
  · exact shrinks_pure none

theorem shrinks_exponentPart : (exponentPart atEnd).Shrinks := by
  apply shrinks_peek.bind
  intro mark
  simp only
  split
  · apply shrinks_drop.bind
    intro _
    apply shrinks_peek.bind
    intro sign
    have digits : Shrinks (do
        let digits ← someDigits atEnd
        pure (some (decide (sign = some '-'), digits))) :=
      (consumes_someDigits atEnd).shrinks.bind fun _ => shrinks_pure _
    exact Shrinks.ite (shrinks_drop.bind fun _ => digits) digits
  · exact shrinks_pure none

theorem consumes_read : (read atEnd).Consumes := by
  apply shrinks_peek.bind_consumes
  intro sign
  have digits : ∀ negative : Bool, Consumes (do
      let whole ← wholePart atEnd
      let fraction ← fractionPart atEnd
      let exponent ← exponentPart atEnd
      pure ({ negative, whole, fraction, exponent } : Numeral)) := by
    intro negative
    apply (consumes_wholePart atEnd).bind
    intro whole
    apply (shrinks_fractionPart atEnd).bind
    intro fraction
    exact (shrinks_exponentPart atEnd).bind fun exponent => shrinks_pure _
  simp only
  split
  · exact shrinks_drop.bind_consumes fun _ => digits _
  · exact digits _

end Numeral

namespace Quoted

theorem shrinks_hexQuad : hexQuad.Shrinks := by
  intro text value rest taken
  rw [taken?_eq_some_iff, hexQuad] at taken
  split at taken
  · cases taken
  · split at taken
    · cases taken
      simp
    · cases taken

theorem shrinks_skipEscape : skipEscape.Shrinks := by
  apply shrinks_peek.bind
  intro next
  split
  · exact (consumes_fail .truncated).shrinks
  · apply shrinks_drop.bind
    intro _
    exact shrinks_hexQuad.bind fun _ => shrinks_pure ()
  · exact Shrinks.ite shrinks_drop (consumes_fail .malformed).shrinks

theorem consumes_skipStep : (skipStep ()).Consumes := by
  apply consumes_peek_bind
  · exact consumes_fail .truncated
  · intro char tail value rest taken
    split at taken
    · next impossible => cases impossible
    · exact (shrinks_pure _).after_drop _ tail taken
    · exact (shrinks_skipEscape.bind fun _ => shrinks_pure _).after_drop _ tail taken
    · split at taken
      · cases taken
      · exact (shrinks_pure _).after_drop _ tail taken

theorem progresses_skipStep : Progresses skipStep :=
  fun _ text _ rest stepped => consumes_skipStep text _ rest stepped

theorem shrinks_skip : skip.Shrinks :=
  shrinks_iterate (fun _ => consumes_skipStep.shrinks) ()

theorem taken?_skip (text : List Char) :
    skip.taken? text = ((skipStep ()).taken? text).bind (continueWith fun _ => skip) :=
  taken?_iterate progresses_skipStep () text

theorem taken?_skip_mark (tail : List Char) : skip.taken? ('"' :: tail) = some ((), tail) := by
  rw [taken?_skip]
  rfl

theorem taken?_skip_plain {char : Char} (notMark : char ≠ '"') (notSlash : char ≠ '\\')
    (printable : ¬char.toNat < 0x20) (tail : List Char) :
    skip.taken? (char :: tail) = skip.taken? tail := by
  have step : (skipStep ()).taken? (char :: tail) = some (.inl (), tail) := by
    simp [skipStep, printable]
  rw [taken?_skip, step]
  rfl

theorem taken?_skip_escape {tail rest : List Char}
    (escape : skipEscape.taken? tail = some ((), rest)) :
    skip.taken? ('\\' :: tail) = skip.taken? rest := by
  have step : (skipStep ()).taken? ('\\' :: tail) = some (.inl (), rest) := by
    change taken? (do
      drop
      skipEscape
      pure (Sum.inl ())) ('\\' :: tail) = _
    simp [escape]
  rw [taken?_skip, step]
  rfl

theorem taken?_skipEscape_unicode {tail rest : List Char} {unit : Nat}
    (quad : hexQuad.taken? tail = some (unit, rest)) :
    skipEscape.taken? ('u' :: tail) = some ((), rest) := by
  change taken? (do
    drop
    let _ ← hexQuad
    pure ()) ('u' :: tail) = _
  simp [quad]

theorem taken?_skipEscape_letter {letter : Char} (notUnicode : letter ≠ 'u')
    (known : (escapeLetter? letter).isSome) (tail : List Char) :
    skipEscape.taken? (letter :: tail) = some ((), tail) := by
  simp [skipEscape, known]

theorem eq_cons_of_required {expected : Char} {text rest : List Char}
    (taken : (required expected).taken? text = some ((), rest)) : text = expected :: rest := by
  simp only [required, taken?_bind, taken?_peek, Option.bind_some] at taken
  cases text with
  | nil => cases taken
  | cons char tail =>
      simp only [List.head?_cons, taken?_ite, taken?_drop, taken?_fail] at taken
      split at taken
      · next same =>
        cases taken
        rw [same]
        rfl
      · cases taken

/-- An escape is walked over, also if it is a pair of surrogates, which takes two rounds. -/
theorem taken?_skip_of_unicodeEscape {tail rest : List Char} {char : Char}
    (taken : unicodeEscape.taken? tail = some (char, rest)) :
    skip.taken? ('\\' :: 'u' :: tail) = skip.taken? rest := by
  simp only [unicodeEscape, taken?_bind, taken?_ite, taken?_fail, taken?_pure,
    Option.bind_eq_some_iff] at taken
  rcases taken with ⟨⟨unit, left⟩, quad, taken⟩
  rw [taken?_skip_escape (taken?_skipEscape_unicode quad)]
  split at taken
  · cases taken
  · split at taken
    · rcases Option.bind_eq_some_iff.1 taken with ⟨⟨_, afterSlash⟩, slash, taken⟩
      rcases Option.bind_eq_some_iff.1 taken with ⟨⟨_, afterLetter⟩, letter, taken⟩
      rcases Option.bind_eq_some_iff.1 taken with ⟨⟨trailing, last⟩, second, taken⟩
      have afterAll : last = rest := by
        simp only [Option.ite_none_right_eq_some, Option.some.injEq, Prod.mk.injEq] at taken
        exact taken.2.2
      have hasSlash : left = '\\' :: afterSlash := eq_cons_of_required slash
      have hasLetter : afterSlash = 'u' :: afterLetter := eq_cons_of_required letter
      rw [hasSlash, hasLetter, taken?_skip_escape (taken?_skipEscape_unicode second), afterAll]
    · cases taken
      rfl

theorem taken?_skip_of_escape {tail rest : List Char} {char : Char}
    (taken : escape.taken? tail = some (char, rest)) :
    skip.taken? ('\\' :: tail) = skip.taken? rest := by
  simp only [escape, taken?_bind, taken?_peek, Option.bind_some] at taken
  cases tail with
  | nil => cases taken
  | cons letter tail =>
      simp only [List.head?_cons] at taken
      split at taken
      · next impossible => cases impossible
      · next isUnicode =>
        cases isUnicode
        exact taken?_skip_of_unicodeEscape (by simpa using taken)
      · next notUnicode same =>
        cases same
        cases known : escapeLetter? letter with
        | none =>
            rw [known] at taken
            cases taken
        | some found =>
            rw [known] at taken
            cases taken
            have isLetter : letter ≠ 'u' := by
              rintro rfl
              exact notUnicode rfl
            exact taken?_skip_escape (taken?_skipEscape_letter isLetter (by simp [known]) tail)

theorem taken?_skip_of_textStep {read next : List Char} {text rest : List Char}
    (stepped : (textStep read).taken? text = some (.inl next, rest)) :
    skip.taken? text = skip.taken? rest := by
  simp only [textStep, taken?_bind, taken?_peek, Option.bind_some] at stepped
  cases text with
  | nil => cases stepped
  | cons char tail =>
      simp only [List.head?_cons] at stepped
      split at stepped
      · next impossible => cases impossible
      · cases stepped
      · next isSlash =>
        cases isSlash
        simp only [taken?_bind, taken?_drop, Option.bind_some, List.tail_cons, taken?_pure,
          Option.bind_eq_some_iff] at stepped
        rcases stepped with ⟨⟨found, left⟩, taken, ended⟩
        cases ended
        exact taken?_skip_of_escape taken
      · next notMark notSlash same =>
        cases same
        split at stepped
        · cases stepped
        · next printable =>
          cases stepped
          exact taken?_skip_plain (fun mark => notMark (by rw [mark]))
            (fun slash => notSlash (by rw [slash])) printable tail

theorem taken?_skip_of_textStep_last {read result : List Char} {text rest : List Char}
    (stepped : (textStep read).taken? text = some (.inr result, rest)) :
    skip.taken? text = some ((), rest) := by
  simp only [textStep, taken?_bind, taken?_peek, Option.bind_some] at stepped
  cases text with
  | nil => cases stepped
  | cons char tail =>
      simp only [List.head?_cons] at stepped
      split at stepped
      · next impossible => cases impossible
      · next isMark =>
        cases isMark
        cases stepped
        exact taken?_skip_mark tail
      · simp only [taken?_bind, taken?_drop, Option.bind_some, List.tail_cons, taken?_pure,
          Option.bind_eq_some_iff] at stepped
        rcases stepped with ⟨⟨found, left⟩, taken, ended⟩
        cases ended
      · split at stepped
        · cases stepped
        · cases stepped

/-- The walk over a string ends where its reader does. -/
theorem taken?_skip_of_text {text rest : List Char} {value : String}
    (taken : Quoted.text.taken? text = some (value, rest)) :
    skip.taken? text = some ((), rest) := by
  rw [Quoted.text, taken?_map, Option.map_eq_some_iff] at taken
  rcases taken with ⟨⟨chars, left⟩, loop, same⟩
  cases same
  have within : ∀ bound read text,
      (iterateWithin textStep bound read).taken? text = some (chars, left) →
        skip.taken? text = some ((), left) := by
    intro bound
    induction bound with
    | nil =>
        intro read text taken
        rw [taken?_iterateWithin_nil, Option.bind_eq_some_iff] at taken
        rcases taken with ⟨⟨next | result, after⟩, stepped, ended⟩
        · cases ended
        · cases ended
          exact taken?_skip_of_textStep_last stepped
    | cons char bound ih =>
        intro read text taken
        rw [taken?_iterateWithin_cons, Option.bind_eq_some_iff] at taken
        rcases taken with ⟨⟨next | result, after⟩, stepped, ended⟩
        · rw [taken?_skip_of_textStep stepped]
          exact ih next after ended
        · cases ended
          exact taken?_skip_of_textStep_last stepped
  exact within text [] text loop

end Quoted

namespace Json

theorem length_le_of_skipScalar {first : Char} {tail rest : List Char} {value : Unit}
    (taken : (skipScalar first).taken? (first :: tail) = some (value, rest)) :
    rest.length ≤ tail.length := by
  apply Nat.le_of_lt_succ
  simp only [skipScalar] at taken
  split at taken
  · exact consumes_word_cons _ _ _ _ _ taken
  · split at taken
    · exact consumes_word_cons _ _ _ _ _ taken
    · split at taken
      · exact consumes_word_cons _ _ _ _ _ taken
      · split at taken
        · exact Nat.lt_succ_of_le (Quoted.shrinks_skip.after_drop first tail taken)
        · split at taken
          · exact (Numeral.consumes_read .malformed).bind (fun _ => shrinks_pure ()) _ _ _ taken
          · cases taken

theorem consumes_skipStart (around : Brackets) : (skipStart around).Consumes := by
  apply consumes_significant_bind
  · exact consumes_fail .truncated
  · intro first tail value rest taken
    simp only at taken
    split at taken
    · exact (shrinks_pure _).after_drop first tail taken
    · simp only [taken?_bind, taken?_pure, Option.bind_eq_some_iff] at taken
      rcases taken with ⟨⟨_, left⟩, scalar, ended⟩
      cases ended
      exact length_le_of_skipScalar scalar

theorem shrinks_skipKey : skipKey.Shrinks := by
  apply shrinks_significant.bind
  intro next
  split
  · apply shrinks_drop.bind
    intro _
    exact Quoted.shrinks_skip.bind fun _ => shrinks_colon
  · exact (consumes_fail .truncated).shrinks
  · exact (consumes_fail .malformed).shrinks

theorem taken?_skipStep (isFirst isBrace : Bool) (around : Brackets) (text : List Char) :
    (skipStep (isFirst, isBrace :: around)).taken? text =
      ((nextPart (closing isBrace) isFirst).taken? text).bind fun result =>
        if result.1 then
          ((if isBrace then skipKey else pure ()).taken? result.2).bind fun keyed =>
            ((skipStart (isBrace :: around)).taken? keyed.2).map fun started =>
              (.inl started.1, started.2)
        else some (.inl (false, around), result.2) := by
  rw [skipStep, taken?_bind]
  congr 1
  funext ⟨goesOn, left⟩
  cases goesOn with
  | false => rfl
  | true =>
      cases isBrace with
      | false => simp
      | true => simp

theorem progresses_skipStep : Progresses skipStep := by
  rintro ⟨isFirst, around⟩ text next rest stepped
  cases around with
  | nil => cases stepped
  | cons isBrace around =>
      rw [taken?_skipStep, Option.bind_eq_some_iff] at stepped
      rcases stepped with ⟨⟨goesOn, between⟩, part, stepped⟩
      cases goesOn with
      | false =>
          cases stepped
          exact length_lt_of_nextPart_false part
      | true =>
          have shrunk := shrinks_nextPart _ _ _ _ _ part
          simp only [if_true, Option.bind_eq_some_iff] at stepped
          rcases stepped with ⟨⟨_, keyed⟩, key, started⟩
          rcases Option.map_eq_some_iff.1 started with ⟨⟨start, left⟩, start, same⟩
          cases same
          have shorter : left.length < keyed.length := consumes_skipStart _ _ _ _ start
          have keyShrunk : keyed.length ≤ between.length :=
            (shrinks_skipKey.ite (shrinks_pure ())) _ _ _ key
          exact Nat.lt_of_lt_of_le shorter (Nat.le_trans keyShrunk shrunk)

theorem ne_of_startsNumeral {first char : Char} (starts : startsNumeral first = true)
    (other : startsNumeral char = false) : first ≠ char := by
  rintro rfl
  rw [starts] at other
  cases other

theorem taken?_skipScalar_of_number {first : Char} {tail rest : List Char} {value : Number}
    (starts : startsNumeral first = true)
    (reads : Numeral.number.taken? (first :: tail) = some (value, rest)) :
    (skipScalar first).taken? (first :: tail) = some ((), rest) := by
  have numeral : ∃ found,
      (Numeral.read .truncated).taken? (first :: tail) = some (found, rest) := by
    rw [Numeral.number, taken?_bind, Option.bind_eq_some_iff] at reads
    rcases reads with ⟨⟨found, left⟩, isRead, ended⟩
    simp only at ended
    split at ended
    · cases ended
      exact ⟨found, isRead⟩
    · cases ended
  rcases numeral with ⟨found, isRead⟩
  rw [skipScalar, if_neg (ne_of_startsNumeral starts (by decide)),
    if_neg (ne_of_startsNumeral starts (by decide)),
    if_neg (ne_of_startsNumeral starts (by decide)),
    if_neg (ne_of_startsNumeral starts (by decide)), if_pos starts, taken?_bind,
    Numeral.taken?_read .malformed .truncated, isRead]
  rfl

theorem taken?_skipKey {text afterKey afterColon : List Char} {name : String}
    (isKey : key.taken? text = some (name, afterKey))
    (isColon : colon.taken? afterKey = some ((), afterColon)) :
    skipKey.taken? text = some ((), afterColon) := by
  rw [key, taken?_bind, taken?_peek, Option.bind_some] at isKey
  split at isKey
  · next isMark =>
    cases text with
    | nil => cases isMark
    | cons mark tail =>
        cases isMark
        simp only [taken?_bind, taken?_drop, Option.bind_some, List.tail_cons] at isKey
        have walked := Quoted.taken?_skip_of_text isKey
        change taken? (do
          drop
          Quoted.skip
          colon) ('"' :: tail) = _
        simp [walked, isColon]
  · cases isKey

theorem taken?_skipStart_scalar {around : Brackets} {text tail rest : List Char} {first : Char}
    (blanks : text.dropWhile isBlank = first :: tail) (noArray : first ≠ '[')
    (noObject : first ≠ '\x7b')
    (scalar : (skipScalar first).taken? (first :: tail) = some ((), rest)) :
    (skipStart around).taken? text = some ((false, around), rest) := by
  rw [skipStart, taken?_bind, taken?_significant, Option.bind_some, blanks]
  simp [noArray, noObject, scalar]

/-- A value without brackets is walked over at once. -/
theorem taken?_skipStart_of_form {depth : Nat} {text begun rest : List Char} {tree : Json}
    (blanks : text.dropWhile isBlank = begun) (form : Form depth begun tree rest)
    (noArray : ∀ elements, tree ≠ .array elements) (noObject : ∀ members, tree ≠ .object members)
    (around : Brackets) : (skipStart around).taken? text = some ((false, around), rest) := by
  cases form with
  | null word => exact taken?_skipStart_scalar blanks (by decide) (by decide) word
  | true word => exact taken?_skipStart_scalar blanks (by decide) (by decide) word
  | false word => exact taken?_skipStart_scalar blanks (by decide) (by decide) word
  | text string =>
      rename_i tail value
      apply taken?_skipStart_scalar blanks (by decide) (by decide)
      change taken? (do
        drop
        Quoted.skip) ('"' :: tail) = _
      simp [Quoted.taken?_skip_of_text string]
  | number starts number =>
      exact taken?_skipStart_scalar blanks (ne_of_startsNumeral starts (by decide))
        (ne_of_startsNumeral starts (by decide)) (taken?_skipScalar_of_number starts number)
  | array parts short => exact absurd rfl (noArray _)
  | object parts short => exact absurd rfl (noObject _)

theorem taken?_skipStart_bracket (isBrace : Bool) {text tail : List Char}
    (blanks : text.dropWhile isBlank = (if isBrace then '\x7b' else '[') :: tail)
    (around : Brackets) :
    (skipStart around).taken? text = some ((true, isBrace :: around), tail) := by
  rw [skipStart, taken?_bind, taken?_significant, Option.bind_some, blanks]
  cases isBrace with
  | false => rfl
  | true => rfl

theorem taken?_walk (start : Bool × Brackets) (text : List Char) :
    (iterate skipStep start).taken? text =
      ((skipStep start).taken? text).bind (continueWith (iterate skipStep)) :=
  taken?_iterate progresses_skipStep start text

/-- From inside a bracket the walk gets behind it, if it gets behind each of its parts. -/
theorem taken?_walk_of_parts {α : Type} {isBrace : Bool} {around : Brackets}
    {isPart : List Char → α → List Char → Prop}
    (walks : ∀ text part left, isPart text part left → ∃ keyed start between,
      (if isBrace then skipKey else pure ()).taken? text = some ((), keyed) ∧
      (skipStart (isBrace :: around)).taken? keyed = some (start, between) ∧
      (iterate skipStep start).taken? between =
        (iterate skipStep (false, isBrace :: around)).taken? left)
    {isFirst : Bool} {text rest : List Char} {parts : List α}
    (isParts : Parts (closing isBrace) isPart isFirst text parts rest) :
    (iterate skipStep (isFirst, isBrace :: around)).taken? text =
      (iterate skipStep (false, around)).taken? rest := by
  induction isParts with
  | done ends =>
      rw [taken?_walk, taken?_skipStep, ends]
      rfl
  | more goesOn here later ih =>
      obtain ⟨keyed, start, between, key, started, walked⟩ := walks _ _ _ here
      rw [taken?_walk, taken?_skipStep, goesOn]
      simp only [Option.bind_some, if_true, key, started, Option.map_some, continueWith, walked, ih]

/-- Where a walk gets to that starts before a value: behind it, inside the same brackets. -/
theorem walks_of_read {depth : Nat} {text rest : List Char} {tree : Json}
    (reads : IsRead depth text tree rest) (around : Brackets) :
    ∃ start left, (skipStart around).taken? text = some (start, left) ∧
      (iterate skipStep start).taken? left = (iterate skipStep (false, around)).taken? rest := by
  induction depth generalizing text rest tree around with
  | zero =>
      have form := form_of_read reads
      generalize blanks : text.dropWhile isBlank = begun at form
      refine ⟨_, _, taken?_skipStart_of_form blanks form ?_ ?_ around, rfl⟩
      · rintro elements rfl
        cases form
      · rintro members rfl
        cases form
  | succ depth ih =>
      have form := form_of_read reads
      generalize blanks : text.dropWhile isBlank = begun at form
      cases tree with
      | array elements =>
          cases form with
          | array parts short =>
              refine ⟨_, _, taken?_skipStart_bracket false blanks around,
                taken?_walk_of_parts ?_ parts⟩
              intro text element left isElement
              obtain ⟨start, between, started, walked⟩ := ih isElement (false :: around)
              exact ⟨text, start, between, rfl, started, walked⟩
      | object members =>
          cases form with
          | object parts short =>
              refine ⟨_, _, taken?_skipStart_bracket true blanks around,
                taken?_walk_of_parts ?_ parts⟩
              rintro text member left ⟨afterKey, afterColon, isKey, isColon, isValue⟩
              obtain ⟨start, between, started, walked⟩ := ih isValue (true :: around)
              exact ⟨afterColon, start, between, taken?_skipKey isKey isColon, started, walked⟩
      | _ =>
          exact ⟨_, _, taken?_skipStart_of_form blanks form (by simp) (by simp) around, rfl⟩

/-- Whatever can be read can be walked over, up to the same place. -/
theorem taken?_skip {depth : Nat} {text rest : List Char} {tree : Json}
    (reads : IsRead depth text tree rest) : skip.taken? text = some ((), rest) := by
  obtain ⟨start, left, started, walked⟩ := walks_of_read reads []
  rw [skip, taken?_bind, started, Option.bind_some, walked, taken?_walk]
  rfl

end Json

end PhysicsScene
