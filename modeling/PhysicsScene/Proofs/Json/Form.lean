import PhysicsScene.Json.Tree
import PhysicsScene.Proofs.Json.Progress

/-!
# The form of a document

`Json.Form` says how the text of a value is made: which characters it begins with and, for an array
or an object, which parts follow in which order. `form_of_read` takes the reader of document trees
apart into this form, so that other readers can be compared with it part by part. A container gives
its parts to any reader in the same order: what `elements` and `members` make of them is a fold over
the parts (`taken?_elements`, `taken?_members`).
-/

namespace PhysicsScene

namespace Reader

variable {α σ : Type}

/-- One round through a container. -/
def partStep (closing : Char) (part : σ → Reader σ) (state : Bool × σ) :
    Reader ((Bool × σ) ⊕ σ) := do
  if ← nextPart closing state.1 then
    let next ← part state.2
    pure (.inl (false, next))
  else pure (.inr state.2)

theorem elements_eq (element : σ → Reader σ) (state : σ) :
    elements element state = iterate (partStep ']' element) (true, state) :=
  rfl

theorem members_eq (member : σ → String → Reader σ) (state : σ) :
    members member state =
      iterate (partStep '\x7d' fun state => key >>= member state) (true, state) := by
  rw [members]
  congr 1
  funext ⟨isFirst, folded⟩
  simp only [partStep, bind_assoc]

theorem taken?_partStep (closing : Char) (part : σ → Reader σ) (state : Bool × σ)
    (text : List Char) :
    (partStep closing part state).taken? text =
      ((nextPart closing state.1).taken? text).bind fun result =>
        if result.1 then
          ((part state.2).taken? result.2).map fun next => (.inl (false, next.1), next.2)
        else some (.inr state.2, result.2) := by
  rw [partStep, taken?_bind]
  congr 1
  funext ⟨goesOn, left⟩
  cases goesOn with
  | false => rfl
  | true =>
      simp only [if_true, taken?_bind, taken?_pure]
      cases (part state.2).taken? left with
      | none => rfl
      | some next => rfl

/-- The parts of a container up to its closing bracket; the first has no comma before it. -/
inductive Parts (closing : Char) (isPart : List Char → α → List Char → Prop) :
    Bool → List Char → List α → List Char → Prop
  | done {isFirst : Bool} {text rest : List Char}
      (ends : (nextPart closing isFirst).taken? text = some (false, rest)) :
      Parts closing isPart isFirst text [] rest
  | more {isFirst : Bool} {text between left rest : List Char} {part : α} {parts : List α}
      (goesOn : (nextPart closing isFirst).taken? text = some (true, between))
      (here : isPart between part left) (later : Parts closing isPart false left parts rest) :
      Parts closing isPart isFirst text (part :: parts) rest

section Loop

variable {closing : Char} {isPart : List Char → α → List Char → Prop}

/-- A loop that collects the parts of a container finds them in order, within its bound. -/
theorem exists_parts {collect : List α → Reader (List α)}
    (collects : ∀ found text next left, (collect found).taken? text = some (next, left) →
      ∃ part, next = part :: found ∧ isPart text part left)
    (bound : List Char) {isFirst : Bool} {found result : List α} {text rest : List Char}
    (taken : (iterateWithin (partStep closing collect) bound (isFirst, found)).taken? text =
      some (result, rest)) :
    ∃ parts, result = parts.reverse ++ found ∧ Parts closing isPart isFirst text parts rest ∧
      parts.length ≤ bound.length := by
  induction bound generalizing isFirst found text with
  | nil =>
      rw [taken?_iterateWithin_nil, taken?_partStep, Option.bind_eq_some_iff] at taken
      rcases taken with ⟨stepped, step, ended⟩
      rcases Option.bind_eq_some_iff.1 step with ⟨⟨goesOn, between⟩, next, part⟩
      cases goesOn with
      | false =>
          cases part
          cases ended
          exact ⟨[], rfl, .done next, Nat.le_refl _⟩
      | true =>
          rcases Option.map_eq_some_iff.1 part with ⟨_, _, rfl⟩
          cases ended
  | cons char bound ih =>
      rw [taken?_iterateWithin_cons, taken?_partStep, Option.bind_eq_some_iff] at taken
      rcases taken with ⟨stepped, step, ended⟩
      rcases Option.bind_eq_some_iff.1 step with ⟨⟨goesOn, between⟩, next, part⟩
      cases goesOn with
      | false =>
          cases part
          cases ended
          exact ⟨[], rfl, .done next, Nat.zero_le _⟩
      | true =>
          rcases Option.map_eq_some_iff.1 part with ⟨⟨extended, left⟩, collected, rfl⟩
          rcases collects found between extended left collected with ⟨first, rfl, isHere⟩
          rcases ih ended with ⟨parts, rfl, later, short⟩
          refine ⟨first :: parts, by simp, .more next isHere later, ?_⟩
          exact Nat.succ_le_succ short

/-- A loop over a container folds over its parts, if it treats each part as the fold does. -/
theorem taken?_loop_of_parts {reader : σ → Reader σ} {fold : σ → α → Option σ}
    (agrees : ∀ state text part left, isPart text part left →
      (reader state).taken? text = (fold state part).map (·, left))
    {isFirst : Bool} {text rest : List Char} {parts : List α}
    (isParts : Parts closing isPart isFirst text parts rest) (state : σ) (bound : List Char)
    (enough : parts.length ≤ bound.length) :
    (iterateWithin (partStep closing reader) bound (isFirst, state)).taken? text =
      (parts.foldlM fold state).map (·, rest) := by
  induction isParts generalizing state bound with
  | done ends =>
      cases bound with
      | nil =>
          rw [taken?_iterateWithin_nil, taken?_partStep, ends]
          rfl
      | cons char bound =>
          rw [taken?_iterateWithin_cons, taken?_partStep, ends]
          rfl
  | more goesOn here later ih =>
      rename_i left _ part parts
      cases bound with
      | nil => exact absurd enough (Nat.not_succ_le_zero _)
      | cons char bound =>
          have short : parts.length ≤ bound.length := Nat.le_of_succ_le_succ enough
          rw [taken?_iterateWithin_cons, taken?_partStep, goesOn, Option.bind_some]
          simp only [if_true, agrees state _ _ _ here, List.foldlM_cons, Option.bind_eq_bind]
          cases fold state part with
          | none => rfl
          | some next => exact ih next bound short

end Loop

section Fold

variable {isValue : List Char → α → List Char → Prop} {text rest : List Char}

theorem taken?_elements {element : σ → Reader σ} (fold : σ → α → Option σ)
    (agrees : ∀ state text value left, isValue text value left →
      (element state).taken? text = (fold state value).map (·, left))
    {parts : List α} (isParts : Parts ']' isValue true text parts rest)
    (short : parts.length ≤ text.length) (state : σ) :
    (elements element state).taken? text = (parts.foldlM fold state).map (·, rest) := by
  rw [elements_eq]
  exact taken?_loop_of_parts agrees isParts state text short

/-- A member of an object: a key, a colon and a value. -/
def IsMember (isValue : List Char → α → List Char → Prop) (text : List Char)
    (member : String × α) (rest : List Char) : Prop :=
  ∃ afterKey afterColon, key.taken? text = some (member.1, afterKey) ∧
    colon.taken? afterKey = some ((), afterColon) ∧ isValue afterColon member.2 rest

theorem taken?_members {member : σ → String → Reader σ} (fold : σ → String × α → Option σ)
    (agrees : ∀ state name text afterColon value left, colon.taken? text = some ((), afterColon) →
      isValue afterColon value left →
      (member state name).taken? text = (fold state (name, value)).map (·, left))
    {parts : List (String × α)} (isParts : Parts '\x7d' (IsMember isValue) true text parts rest)
    (short : parts.length ≤ text.length) (state : σ) :
    (members member state).taken? text = (parts.foldlM fold state).map (·, rest) := by
  rw [members_eq]
  refine taken?_loop_of_parts ?_ isParts state text short
  rintro state text ⟨name, value⟩ left ⟨afterKey, afterColon, isKey, isColon, here⟩
  rw [taken?_bind, isKey]
  exact agrees state name afterKey afterColon value left isColon here

end Fold

end Reader

namespace Json

open Reader

/-- A value that is read in full within a depth. -/
def IsRead (depth : Nat) (text : List Char) (tree : Json) (rest : List Char) : Prop :=
  (read depth).taken? text = some (tree, rest)

/-- How the text of a value is made, once the blanks before it are gone. -/
inductive Form : Nat → List Char → Json → List Char → Prop
  | null {depth : Nat} {tail rest : List Char}
      (reads : (word ['n', 'u', 'l', 'l']).taken? ('n' :: tail) = some ((), rest)) :
      Form depth ('n' :: tail) .null rest
  | true {depth : Nat} {tail rest : List Char}
      (reads : (word ['t', 'r', 'u', 'e']).taken? ('t' :: tail) = some ((), rest)) :
      Form depth ('t' :: tail) (.boolean true) rest
  | false {depth : Nat} {tail rest : List Char}
      (reads : (word ['f', 'a', 'l', 's', 'e']).taken? ('f' :: tail) = some ((), rest)) :
      Form depth ('f' :: tail) (.boolean false) rest
  | text {depth : Nat} {tail rest : List Char} {value : String}
      (reads : Quoted.text.taken? tail = some (value, rest)) :
      Form depth ('"' :: tail) (.text value) rest
  | number {depth : Nat} {first : Char} {tail rest : List Char} {value : Number}
      (starts : startsNumeral first = Bool.true)
      (reads : Numeral.number.taken? (first :: tail) = some (value, rest)) :
      Form depth (first :: tail) (.number value) rest
  | array {inside : Nat} {tail rest : List Char} {elements : List Json}
      (parts : Parts ']' (IsRead inside) Bool.true tail elements rest)
      (short : elements.length ≤ tail.length) :
      Form (inside + 1) ('[' :: tail) (.array elements) rest
  | object {inside : Nat} {tail rest : List Char} {members : List (String × Json)}
      (parts : Parts '\x7d' (IsMember (IsRead inside)) Bool.true tail members rest)
      (short : members.length ≤ tail.length) :
      Form (inside + 1) ('\x7b' :: tail) (.object members) rest

theorem taken?_word_then {letters text rest : List Char} {value tree : Json}
    (reads : taken? (do word letters; pure value) text = some (tree, rest)) :
    (word letters).taken? text = some ((), rest) ∧ value = tree := by
  rw [taken?_bind, Option.bind_eq_some_iff] at reads
  rcases reads with ⟨⟨_, left⟩, isWord, ended⟩
  cases ended
  exact ⟨isWord, rfl⟩

theorem form_of_readScalarOr (depth : Nat) {bracket : Char → Reader Json} {first : Char}
    {tail rest : List Char} {tree : Json}
    (reads : (readScalarOr bracket first).taken? (first :: tail) = some (tree, rest)) :
    Form depth (first :: tail) tree rest ∨
      (bracket first).taken? (first :: tail) = some (tree, rest) := by
  simp only [readScalarOr] at reads
  split at reads
  · next isFirst =>
    subst isFirst
    rcases taken?_word_then reads with ⟨isWord, rfl⟩
    exact .inl (.null isWord)
  · split at reads
    · next isFirst =>
      subst isFirst
      rcases taken?_word_then reads with ⟨isWord, rfl⟩
      exact .inl (.true isWord)
    · split at reads
      · next isFirst =>
        subst isFirst
        rcases taken?_word_then reads with ⟨isWord, rfl⟩
        exact .inl (.false isWord)
      · split at reads
        · next isFirst =>
          subst isFirst
          simp only [taken?_bind, taken?_drop, Option.bind_some, List.tail_cons, taken?_pure,
            Option.bind_eq_some_iff] at reads
          rcases reads with ⟨⟨value, left⟩, text, ended⟩
          cases ended
          exact .inl (.text text)
        · split at reads
          · next starts =>
            rw [taken?_bind, Option.bind_eq_some_iff] at reads
            rcases reads with ⟨⟨value, left⟩, number, ended⟩
            cases ended
            exact .inl (.number starts number)
          · exact .inr reads

theorem form_of_readBracket {inside : Nat} {first : Char} {tail rest : List Char} {tree : Json}
    (reads : (readBracket (read inside) first).taken? (first :: tail) = some (tree, rest)) :
    Form (inside + 1) (first :: tail) tree rest := by
  simp only [readBracket] at reads
  split at reads
  · next isFirst =>
    subst isFirst
    simp only [taken?_bind, taken?_drop, Option.bind_some, List.tail_cons, taken?_pure,
      Option.bind_eq_some_iff] at reads
    rcases reads with ⟨⟨found, left⟩, loop, ended⟩
    cases ended
    have collects : ∀ found text next left,
        taken? (do pure ((← read inside) :: found)) text = some (next, left) →
          ∃ element, next = element :: found ∧ IsRead inside text element left := by
      intro found text next left taken
      simp only [taken?_bind, taken?_pure, Option.bind_eq_some_iff] at taken
      rcases taken with ⟨⟨value, after⟩, reads, ended⟩
      cases ended
      exact ⟨value, rfl, reads⟩
    rw [elements_eq] at loop
    rcases exists_parts collects tail loop with ⟨parts, rfl, isParts, short⟩
    simpa using Form.array isParts short
  · split at reads
    · next isFirst =>
      subst isFirst
      simp only [taken?_bind, taken?_drop, Option.bind_some, List.tail_cons, taken?_pure,
        Option.bind_eq_some_iff] at reads
      rcases reads with ⟨⟨found, left⟩, loop, ended⟩
      cases ended
      have collects : ∀ found text next left,
          taken? (key >>= fun name => do
            colon
            pure ((name, ← read inside) :: found)) text = some (next, left) →
          ∃ member, next = member :: found ∧ IsMember (IsRead inside) text member left := by
        intro found text next left taken
        simp only [taken?_bind, taken?_pure, Option.bind_eq_some_iff] at taken
        rcases taken with ⟨⟨name, afterKey⟩, isKey, ⟨_, afterColon⟩, isColon, ⟨value, after⟩, reads,
          ended⟩
        cases ended
        exact ⟨(name, value), rfl, afterKey, afterColon, isKey, isColon, reads⟩
      rw [members_eq] at loop
      rcases exists_parts collects tail loop with ⟨parts, rfl, isParts, short⟩
      simpa using Form.object isParts short
    · cases reads

/-- Whatever is read as a value has the form of one. -/
theorem form_of_read {depth : Nat} {text rest : List Char} {tree : Json}
    (reads : IsRead depth text tree rest) : Form depth (text.dropWhile isBlank) tree rest := by
  rw [IsRead] at reads
  cases depth with
  | zero =>
      simp only [read, taken?_bind, taken?_significant, Option.bind_some] at reads
      cases left : text.dropWhile isBlank with
      | nil =>
          rw [left] at reads
          cases reads
      | cons first tail =>
          rw [left] at reads
          rcases form_of_readScalarOr 0 reads with form | none
          · exact form
          · cases none
  | succ inside =>
      simp only [read, taken?_bind, taken?_significant, Option.bind_some] at reads
      cases left : text.dropWhile isBlank with
      | nil =>
          rw [left] at reads
          cases reads
      | cons first tail =>
          rw [left] at reads
          rcases form_of_readScalarOr (inside + 1) reads with form | bracket
          · exact form
          · exact form_of_readBracket bracket

end Json

end PhysicsScene
