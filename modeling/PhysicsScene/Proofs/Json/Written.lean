import Mathlib.Data.List.Forall2
import PhysicsScene.Json.Printer
import PhysicsScene.Proofs.Json.Agreement
import PhysicsScene.Proofs.Json.Spelling

/-!
# What is written is read

`Json.Spells` says that a text is read as a certain tree wherever it stands: at the end, or before a
comma or a closing bracket. A string, an array and an object are written so that they spell what
they hold, if their parts do; a bracket costs one unit of the depth. What a typed decoder makes of
a written text then follows from its tree, since the two ways of a decoder agree.
-/

namespace PhysicsScene

namespace Quoted

open Reader Json

theorem taken?_hexQuad_low {value : Nat} (low : value < 0x20) (rest : List Char) :
    hexQuad.taken? ('0' :: '0' :: hexDigit (value / 16) :: hexDigit (value % 16) :: rest) =
      some (value, rest) := by
  have quads : ∀ value < 0x20,
      byteLength ['0', '0', hexDigit (value / 16), hexDigit (value % 16)] = 4 ∧
      ['0', '0', hexDigit (value / 16), hexDigit (value % 16)].mapM (Digit.value? 16) =
        some [0, 0, value / 16, value % 16] := by
    decide
  rcases quads value low with ⟨length, digits⟩
  have whole : ((0 * 16 + 0) * 16 + value / 16) * 16 + value % 16 = value := by omega
  rw [taken?_eq_some_iff, hexQuad]
  simp only [List.take_succ_cons, List.take_zero, length, digits, whole]
  rfl

theorem taken?_escape_low {char : Char} (low : char.toNat < 0x20) (rest : List Char) :
    escape.taken? ('u' :: '0' :: '0' :: hexDigit (char.toNat / 16) ::
      hexDigit (char.toNat % 16) :: rest) = some (char, rest) := by
  have quad := taken?_hexQuad_low low rest
  have noTrail : ¬(0xDC00 ≤ char.toNat ∧ char.toNat ≤ 0xDFFF) := by omega
  have noLead : ¬(0xD800 ≤ char.toNat ∧ char.toNat ≤ 0xDBFF) := by omega
  change taken? (do
    drop
    unicodeEscape) _ = _
  simp only [taken?_bind, taken?_drop, Option.bind_some, List.tail_cons, unicodeEscape, quad,
    taken?_ite, noTrail, noLead, if_false, taken?_pure, Char.ofNat_toNat]

theorem taken?_textStep_escape {read : List Char} {tail rest : List Char} {char : Char}
    (escaped : escape.taken? tail = some (char, rest)) :
    (textStep read).taken? ('\\' :: tail) = some (.inl (char :: read), rest) := by
  change taken? (do
    drop
    let char ← escape
    pure (Sum.inl (char :: read))) ('\\' :: tail) = _
  simp [escaped]

/-- One round reads one character, however it is written. -/
theorem taken?_textStep_escapedChars (read : List Char) (char : Char) (rest : List Char) :
    (textStep read).taken? (escapedChars char ++ rest) = some (.inl (char :: read), rest) := by
  unfold escapedChars
  split
  case h_8 =>
    split
    · next low => exact taken?_textStep_escape (taken?_escape_low low rest)
    · next printable => simp [textStep, printable]
  all_goals exact taken?_textStep_escape rfl

theorem taken?_textLoop (chars read rest : List Char) (bound : List Char)
    (enough : chars.length ≤ bound.length) :
    (iterateWithin textStep bound read).taken? (chars.flatMap escapedChars ++ '"' :: rest) =
      some (read.reverse ++ chars, rest) := by
  induction chars generalizing read bound with
  | nil =>
      have last : (textStep read).taken? ('"' :: rest) = some (.inr read.reverse, rest) := rfl
      cases bound with
      | nil => simp [taken?_iterateWithin_nil, last, continueWith]
      | cons char bound => simp [taken?_iterateWithin_cons, last, continueWith]
  | cons first chars ih =>
      cases bound with
      | nil => cases enough
      | cons char bound =>
          rw [List.flatMap_cons, List.append_assoc, taken?_iterateWithin_cons,
            taken?_textStep_escapedChars]
          have later := ih (first :: read) bound (Nat.le_of_succ_le_succ enough)
          simpa [continueWith] using later

theorem length_le_escapedChars (chars : List Char) :
    chars.length ≤ (chars.flatMap escapedChars).length := by
  have one : ∀ char, 1 ≤ (escapedChars char).length := by
    intro char
    unfold escapedChars
    split <;> (try split) <;> simp
  induction chars with
  | nil => simp
  | cons first chars ih =>
      have ofFirst := one first
      rw [List.flatMap_cons, List.length_append, List.length_cons]
      omega

/-- A string is read back from its text. -/
theorem taken?_text (value : String) (rest : List Char) :
    text.taken? (value.toList.flatMap escapedChars ++ '"' :: rest) = some (value, rest) := by
  have enough : value.toList.length ≤
      (value.toList.flatMap escapedChars ++ '"' :: rest).length := by
    rw [List.length_append]
    exact Nat.le_add_right_of_le (length_le_escapedChars value.toList)
  have loop : (iterate textStep []).taken? (value.toList.flatMap escapedChars ++ '"' :: rest) =
      some (value.toList, rest) :=
    taken?_textLoop value.toList [] rest _ enough
  rw [text, taken?_map, loop]
  simp

end Quoted

namespace Json

open Reader

variable {depth : Nat} {text rest : List Char} {tree : Json}

theorem isRead_of_scalar {first : Char} {tail : List Char} (visible : isBlank first = false)
    (reads : ∀ bracket, (readScalarOr bracket first).taken? (first :: tail) = some (tree, rest)) :
    IsRead depth (first :: tail) tree rest := by
  rw [IsRead]
  cases depth <;> simp [read, visible, reads]

theorem isRead_of_bracket {inside : Nat} {first : Char} {tail : List Char}
    (isBracket : first = '[' ∨ first = '\x7b')
    (reads : (readBracket (read inside) first).taken? (first :: tail) = some (tree, rest)) :
    IsRead (inside + 1) (first :: tail) tree rest := by
  rw [IsRead]
  rcases isBracket with rfl | rfl
  · simpa [read, isBlank, readScalarOr, startsNumeral, Numeral.digit?] using reads
  · simpa [read, isBlank, readScalarOr, startsNumeral, Numeral.digit?] using reads

theorem isBlank_of_startsNumeral {first : Char} (starts : startsNumeral first = true) :
    isBlank first = false := by
  have other : ∀ char, startsNumeral char = false → ¬first = char :=
    fun char other => ne_of_startsNumeral starts other
  simp [isBlank, other ' ' (by decide), other '\t' (by decide), other '\n' (by decide),
    other '\r' (by decide)]

theorem taken?_readScalarOr_of_number {bracket : Char → Reader Json} {first : Char}
    {tail : List Char} {value : Number} (starts : startsNumeral first = true)
    (reads : Numeral.number.taken? (first :: tail) = some (value, rest)) :
    (readScalarOr bracket first).taken? (first :: tail) = some (.number value, rest) := by
  rw [readScalarOr, if_neg (ne_of_startsNumeral starts (by decide)),
    if_neg (ne_of_startsNumeral starts (by decide)),
    if_neg (ne_of_startsNumeral starts (by decide)),
    if_neg (ne_of_startsNumeral starts (by decide)), if_pos starts, taken?_bind, reads]
  rfl

/-- Whatever has the form of a value is read as that value. -/
theorem isRead_of_form (form : Form depth text tree rest) : IsRead depth text tree rest := by
  cases form with
  | null reads =>
      exact isRead_of_scalar (by decide) fun bracket => by simp [readScalarOr, reads]
  | true reads =>
      exact isRead_of_scalar (by decide) fun bracket => by simp [readScalarOr, reads]
  | false reads =>
      exact isRead_of_scalar (by decide) fun bracket => by simp [readScalarOr, reads]
  | text reads =>
      exact isRead_of_scalar (by decide) fun bracket => by simp [readScalarOr, reads]
  | number starts reads =>
      exact isRead_of_scalar (isBlank_of_startsNumeral starts) fun bracket =>
        taken?_readScalarOr_of_number starts reads
  | array parts short =>
      rename_i inside tail elements
      have step : ∀ found text element left, IsRead inside text element left →
          taken? (do pure ((← read inside) :: found)) text =
            (some (element :: found)).map (·, left) := by
        intro found text element left isElement
        rw [IsRead] at isElement
        simp [isElement]
      have loop := taken?_elements (fun found element => some (element :: found)) step parts short []
      rw [Decoder.foldlM_push] at loop
      refine isRead_of_bracket (.inl rfl) ?_
      simp only [readBracket, if_true, taken?_bind, taken?_drop, Option.bind_some, List.tail_cons,
        loop, Option.map_some, taken?_pure, List.reverse_reverse]
  | object parts short =>
      rename_i inside tail members
      have loop := taken?_members (fun found member => some (member :: found))
        Decoder.taken?_pushMember parts short []
      rw [Decoder.foldlM_push] at loop
      refine isRead_of_bracket (.inr rfl) ?_
      simp only [readBracket, Char.reduceEq, if_false, if_true, taken?_bind, taken?_drop, Option.bind_some,
        List.tail_cons, loop, Option.map_some, taken?_pure, List.reverse_reverse]

/-- A written value has the form of a tree, wherever it stands. -/
def Spells (depth : Nat) (written : List Char) (tree : Json) : Prop :=
  ∀ ⦃rest : List Char⦄, Ends rest → Form depth (written ++ rest) tree rest

/-- A text that is no end of a container: another part begins here. -/
def BeginsPart (closing : Char) (text : List Char) : Prop :=
  ∃ first tail, text = first :: tail ∧ isBlank first = false ∧ first ≠ closing

theorem beginsPart_of_form {closing : Char} (isClosing : closing = ']' ∨ closing = '\x7d')
    (form : Form depth text tree rest) : BeginsPart closing text := by
  cases form with
  | number starts reads =>
      refine ⟨_, _, rfl, isBlank_of_startsNumeral starts, ne_of_startsNumeral starts ?_⟩
      rcases isClosing with rfl | rfl <;> decide
  | _ =>
      refine ⟨_, _, rfl, by decide, ?_⟩
      rcases isClosing with rfl | rfl <;> decide

section Parts

variable {α : Type} {closing : Char} {isPart : List Char → α → List Char → Prop}

theorem taken?_nextPart_first (begins : BeginsPart closing text) :
    (nextPart closing true).taken? text = some (true, text) := by
  rcases begins with ⟨first, tail, rfl, visible, other⟩
  simp [nextPart, visible, other]

theorem taken?_nextPart_comma (notComma : closing ≠ ',') (begins : BeginsPart closing text) :
    (nextPart closing false).taken? (',' :: text) = some (true, text) := by
  rcases begins with ⟨first, tail, rfl, visible, other⟩
  have comma : isBlank ',' = false := by decide
  simp [nextPart, afterComma, comma, notComma.symm, visible, other]

theorem taken?_nextPart_closing (isClosing : closing = ']' ∨ closing = '\x7d') (isFirst : Bool)
    (rest : List Char) :
    (nextPart closing isFirst).taken? (closing :: rest) = some (false, rest) := by
  rcases isClosing with rfl | rfl <;> rfl

/-- Written parts with a comma before each. -/
def laterChars (parts : List (List Char)) : List Char :=
  parts.flatMap (',' :: ·)

theorem joinChars_cons (first : List Char) (parts : List (List Char)) :
    joinChars (first :: parts) = first ++ laterChars parts := by
  induction parts generalizing first with
  | nil => simp [joinChars, laterChars]
  | cons second parts ih => simp [joinChars, laterChars, ih second]

/-- A text that is read as a part, where a part of a container may stand. -/
def IsWritten (closing : Char) (isPart : List Char → α → List Char → Prop) (written : List Char)
    (part : α) : Prop :=
  ∀ ⦃rest : List Char⦄, Ends rest →
    isPart (written ++ rest) part rest ∧ BeginsPart closing (written ++ rest)

theorem ends_closing (isClosing : closing = ']' ∨ closing = '\x7d') (rest : List Char) :
    Ends (closing :: rest) := by
  rcases isClosing with rfl | rfl
  · exact ends_bracket rest
  · exact ends_brace rest

theorem ends_laterChars (isClosing : closing = ']' ∨ closing = '\x7d')
    (parts : List (List Char)) (rest : List Char) :
    Ends (laterChars parts ++ closing :: rest) := by
  cases parts with
  | nil => exact ends_closing isClosing rest
  | cons first parts => exact ends_comma _

theorem parts_laterChars (isClosing : closing = ']' ∨ closing = '\x7d')
    {written : List (List Char)} {parts : List α}
    (areWritten : List.Forall₂ (IsWritten closing isPart) written parts) (rest : List Char) :
    Parts closing isPart false (laterChars written ++ closing :: rest) parts rest := by
  have notComma : closing ≠ ',' := by rcases isClosing with rfl | rfl <;> decide
  induction areWritten with
  | nil => exact .done (taken?_nextPart_closing isClosing false rest)
  | cons first later ih =>
      rcases first (ends_laterChars isClosing _ rest) with ⟨here, begins⟩
      rw [laterChars, List.flatMap_cons, List.append_assoc, List.cons_append]
      exact .more (taken?_nextPart_comma notComma begins) here ih

/-- Parts that are joined by commas are the parts of the container. -/
theorem parts_joinChars (isClosing : closing = ']' ∨ closing = '\x7d')
    {written : List (List Char)} {parts : List α}
    (areWritten : List.Forall₂ (IsWritten closing isPart) written parts) (rest : List Char) :
    Parts closing isPart true (joinChars written ++ closing :: rest) parts rest := by
  cases areWritten with
  | nil => exact .done (taken?_nextPart_closing isClosing true rest)
  | cons first later =>
      rcases first (ends_laterChars isClosing _ rest) with ⟨here, begins⟩
      rw [joinChars_cons, List.append_assoc]
      exact .more (taken?_nextPart_first begins) here (parts_laterChars isClosing later rest)

theorem length_le_joinChars (written : List (List Char)) (closing : Char) (rest : List Char) :
    written.length ≤ (joinChars written ++ closing :: rest).length := by
  have commas : ∀ parts : List (List Char), parts.length ≤ (laterChars parts).length := by
    intro parts
    induction parts with
    | nil => exact Nat.zero_le _
    | cons first parts ih =>
        rw [laterChars] at ih
        simp only [laterChars, List.flatMap_cons, List.length_append, List.length_cons]
        omega
  cases written with
  | nil => exact Nat.zero_le _
  | cons first parts =>
      have later := commas parts
      simp only [joinChars_cons, List.length_append, List.length_cons]
      omega

end Parts

theorem spells_null (depth : Nat) : Spells depth ['n', 'u', 'l', 'l'] .null :=
  fun _ _ => .null rfl

theorem spells_boolean (depth : Nat) (value : Bool) :
    Spells depth (booleanChars value) (.boolean value) := by
  intro rest ends
  cases value with
  | false => exact .false rfl
  | true => exact .true rfl

theorem spells_text (depth : Nat) (value : String) : Spells depth (textChars value) (.text value) := by
  intro rest ends
  have form : Form depth ('"' :: (value.toList.flatMap escapedChars ++ '"' :: rest))
      (.text value) rest := .text (Quoted.taken?_text value rest)
  simpa [textChars] using form

theorem exists_chars_eq {spelling : Numeral.Spelling} (valid : spelling.IsValid) :
    ∃ first tail, spelling.chars = first :: tail ∧ startsNumeral first = true := by
  rcases valid.whole with ⟨some, areDigits⟩
  rw [Numeral.Spelling.chars]
  cases spelling.negative with
  | true => exact ⟨'-', _, rfl, rfl⟩
  | false =>
      cases whole : spelling.whole with
      | nil => exact absurd whole some
      | cons first tail =>
          have isDigit := areDigits first (by simp [whole])
          exact ⟨first, _, rfl, by simp [startsNumeral, isDigit]⟩

theorem spells_spelling (depth : Nat) {spelling : Numeral.Spelling} (valid : spelling.IsValid)
    {value : Number} (isValue : spelling.numeral.value? = some value) :
    Spells depth spelling.chars (.number value) := by
  intro rest ends
  have reads := Numeral.taken?_number_spelling valid isValue ends
  rcases exists_chars_eq valid with ⟨first, tail, begins, starts⟩
  rw [begins] at reads ⊢
  exact .number starts reads

theorem spells_integer (depth : Nat) {value : Int} (inRange : Number.InRange value) :
    Spells depth (Decimal.integerChars value) (.number (.integer value inRange)) := by
  rw [← Numeral.Spelling.chars_ofInteger]
  exact spells_spelling depth (Numeral.Spelling.isValid_ofInteger value)
    (Numeral.Spelling.value?_ofInteger inRange)

/-- An array is written as its elements are. -/
theorem spells_array {written : List (List Char)} {elements : List Json}
    (areWritten : List.Forall₂ (Spells depth) written elements) :
    Spells (depth + 1) (arrayChars written) (.array elements) := by
  intro rest ends
  have parts : List.Forall₂ (IsWritten ']' (IsRead depth)) written elements :=
    areWritten.imp fun _ _ spells _ ends =>
      ⟨isRead_of_form (spells ends), beginsPart_of_form (.inl rfl) (spells ends)⟩
  have short := length_le_joinChars written ']' rest
  rw [areWritten.length_eq] at short
  simpa [arrayChars] using Form.array (parts_joinChars (.inl rfl) parts rest) short

theorem isWritten_memberChars {name : String} {written : List Char}
    (spells : Spells depth written tree) :
    IsWritten '\x7d' (IsMember (IsRead depth)) (memberChars name written) (name, tree) := by
  intro rest ends
  have reads := isRead_of_form (spells ends)
  have isKey := Quoted.taken?_text name (':' :: (written ++ rest))
  refine ⟨⟨':' :: (written ++ rest), written ++ rest, ?_, rfl, reads⟩, '"', _, rfl, rfl, by decide⟩
  simpa [key, memberChars, textChars] using isKey

/-- An object is written as its members are. -/
theorem spells_object {written : List (String × List Char)} {members : List (String × Json)}
    (areWritten : List.Forall₂ (fun part member => part.1 = member.1 ∧ Spells depth part.2 member.2)
      written members) :
    Spells (depth + 1) (objectChars written) (.object members) := by
  intro rest ends
  have parts : List.Forall₂ (IsWritten '\x7d' (IsMember (IsRead depth)))
      (written.map fun part => memberChars part.1 part.2) members := by
    rw [List.forall₂_map_left_iff]
    refine areWritten.imp ?_
    rintro ⟨_, value⟩ ⟨name, tree⟩ ⟨rfl, spells⟩
    exact isWritten_memberChars spells
  have short := length_le_joinChars (written.map fun part => memberChars part.1 part.2) '\x7d' rest
  rw [parts.length_eq] at short
  simpa [objectChars] using Form.object (parts_joinChars (.inr rfl) parts rest) short

end Json

end PhysicsScene
