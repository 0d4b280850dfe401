import Mathlib.Data.List.DropRight
import PhysicsScene.Json.Decoder
import PhysicsScene.Proofs.Json.Skip

/-!
# The two ways of a decoder

A decoder has two ways to a value: it reads a text, or it takes a document tree apart. They agree
if, wherever a tree can be read, the decoder reads from the same text what it makes of the tree, and
stops at the same place. Each way of making decoders keeps that. A container is read part by part,
so it folds over the parts of the tree; a record walks over the members that it does not know.
-/

namespace PhysicsScene

namespace Decoder

open Reader Json

variable {α β σ : Type} {depth : Nat} {text rest : List Char} {tree : Json}

@[simp]
theorem taken?_wrongKind (text : List Char) : (wrongKind : Reader α).taken? text = none := by
  rw [wrongKind, taken?_bind, taken?_significant, Option.bind_some]
  cases text.dropWhile isBlank with
  | nil => rfl
  | cons first tail => simp

theorem taken?_readIf {starts : Char → Bool} {accept : Reader α} {first : Char} {tail : List Char}
    (blanks : text.dropWhile isBlank = first :: tail) :
    (readIf starts accept).taken? text =
      if starts first then accept.taken? (first :: tail) else none := by
  rw [readIf, taken?_bind, taken?_significant, Option.bind_some, blanks]
  simp

/-- A reader of one beginning does not read what begins with another character. -/
theorem taken?_readIf_of_ne {bracket first : Char} {accept : Reader α} {tail : List Char}
    (blanks : text.dropWhile isBlank = first :: tail) (other : first ≠ bracket) :
    (readIf (· = bracket) accept).taken? text = none := by
  rw [taken?_readIf blanks, if_neg (by simpa using other)]

theorem isRead_dropWhile (reads : IsRead depth text tree rest) :
    IsRead depth (text.dropWhile isBlank) tree rest := by
  rw [IsRead] at reads ⊢
  cases depth <;>
    simpa only [Json.read, taken?_bind, taken?_significant, List.dropWhile_idempotent] using reads

/-- Reading gives what the tree gives, and leaves what reading the tree leaves. -/
def Agrees (decoder : Decoder α) : Prop :=
  ∀ ⦃depth : Nat⦄ ⦃text rest : List Char⦄ ⦃tree : Json⦄, IsRead depth text tree rest →
    (decoder.read depth).taken? text = (decoder.ofJson? tree).map (·, rest)

theorem Agrees.map {decoder : Decoder α} (agrees : decoder.Agrees) (change : α → β) :
    (decoder.map change).Agrees := by
  intro depth text rest tree reads
  simp only [Decoder.map, taken?_map, agrees reads, Option.map_map, Option.map_eq_map]
  rfl

/-- Reading the tree itself and changing it agrees with changing the tree. -/
theorem agrees_of_tree {decoder : Decoder α} {change : Json → α}
    (isRead : ∀ depth, decoder.read depth = change <$> Json.read depth)
    (isTree : ∀ tree, decoder.ofJson? tree = some (change tree)) : decoder.Agrees := by
  intro depth text rest tree reads
  rw [isRead, isTree, taken?_map, reads]
  rfl

theorem agrees_anything : anything.Agrees :=
  agrees_of_tree (fun _ => rfl) fun _ => rfl

theorem agrees_numberBy (accept : Number → Option α) : (numberBy accept).Agrees := by
  intro depth text rest tree reads
  have form := form_of_read reads
  generalize blanks : text.dropWhile isBlank = begun at form
  cases form with
  | number starts number =>
      rename_i first tail value
      have result : ((numberBy accept).read depth).taken? text = _ := taken?_readIf blanks
      rw [result, if_pos starts, taken?_bind, number, Option.bind_some]
      simp only [numberBy]
      cases accept value with
      | none => rfl
      | some found => rfl
  | _ => exact taken?_readIf blanks

theorem agrees_boolean : boolean.Agrees := by
  intro depth text rest tree reads
  have form := form_of_read reads
  generalize blanks : text.dropWhile isBlank = begun at form
  cases form with
  | true word =>
      have result : (boolean.read depth).taken? text = _ := taken?_readIf blanks
      rw [result, if_pos (by decide)]
      change taken? (do
        Reader.word ['t', 'r', 'u', 'e']
        pure true) _ = _
      rw [taken?_bind, word]
      rfl
  | false word =>
      have result : (boolean.read depth).taken? text = _ := taken?_readIf blanks
      rw [result, if_pos (by decide)]
      change taken? (do
        Reader.word ['f', 'a', 'l', 's', 'e']
        pure false) _ = _
      rw [taken?_bind, word]
      rfl
  | number starts number =>
      have result : (boolean.read depth).taken? text = _ := taken?_readIf blanks
      have notTrue := ne_of_startsNumeral starts (show startsNumeral 't' = Bool.false by decide)
      have notFalse := ne_of_startsNumeral starts (show startsNumeral 'f' = Bool.false by decide)
      rw [result, if_neg (by simp [notTrue, notFalse])]
      rfl
  | _ => exact taken?_readIf blanks

theorem agrees_text : Decoder.text.Agrees := by
  intro depth text rest tree reads
  have form := form_of_read reads
  generalize blanks : text.dropWhile isBlank = begun at form
  cases form with
  | text value =>
      have result : (Decoder.text.read depth).taken? text = _ := taken?_readIf blanks
      rw [result, if_pos (by decide), taken?_bind, taken?_drop, Option.bind_some, List.tail_cons,
        value]
      rfl
  | number starts number =>
      exact taken?_readIf_of_ne blanks (ne_of_startsNumeral starts (by decide))
  | _ => exact taken?_readIf_of_ne blanks (by decide)

theorem head?_ne_of_form {begun : List Char} (form : Form depth begun tree rest)
    (notNull : tree ≠ .null) : begun.head? ≠ some 'n' := by
  cases form with
  | null word => exact absurd rfl notNull
  | number starts number =>
      intro same
      exact ne_of_startsNumeral starts (by decide) (Option.some.inj same)
  | _ => simp

theorem Agrees.nullable {decoder : Decoder α} (agrees : decoder.Agrees) :
    (nullable decoder).Agrees := by
  intro depth text rest tree reads
  have form := form_of_read reads
  have inner := agrees (isRead_dropWhile reads)
  generalize blanks : text.dropWhile isBlank = begun at form inner
  have present : tree ≠ .null →
      ((Decoder.nullable decoder).read depth).taken? text =
        (decoder.ofJson? tree).map fun value => (some value, rest) := by
    intro notNull
    have notWord := head?_ne_of_form form notNull
    simp only [Decoder.nullable, taken?_bind, taken?_significant, Option.bind_some, blanks]
    rw [taken?_map, inner, Option.map_map]
    rfl
  cases tree with
  | null =>
      cases form with
      | null word =>
          rw [Decoder.nullable, taken?_bind, taken?_significant, Option.bind_some, blanks]
          change taken? (do
            Reader.word ['n', 'u', 'l', 'l']
            pure none) _ = _
          simp [word]
  | _ =>
      rw [present (by simp)]
      simp [Decoder.nullable, Function.comp_def]

theorem taken?_nested {inside : Nat → Reader α} {bracket : Char} {tail : List Char} :
    (nested (depth + 1) inside).taken? (bracket :: tail) = (inside depth).taken? tail := by
  rw [nested, taken?_bind, taken?_drop, Option.bind_some]
  rfl

/-- An array is read element by element; what is read first ends up last. -/
theorem Agrees.list {decoder : Decoder α} (agrees : decoder.Agrees) :
    (list decoder).Agrees := by
  intro depth text rest tree reads
  have form := form_of_read reads
  generalize blanks : text.dropWhile isBlank = begun at form
  cases form with
  | array parts short =>
      rename_i inside tail elements
      have step : ∀ found text element left, IsRead inside text element left →
          taken? (do pure ((← decoder.read inside) :: found)) text =
            ((· :: found) <$> decoder.ofJson? element).map (·, left) := by
        intro found text element left isElement
        rw [taken?_bind, agrees isElement]
        cases decoder.ofJson? element with
        | none => rfl
        | some value => rfl
      have result : ((Decoder.list decoder).read (inside + 1)).taken? text = _ :=
        taken?_readIf blanks
      rw [result, if_pos (by decide), taken?_nested, taken?_map,
        taken?_elements _ step parts short]
      simp only [Decoder.list, List.mapM_eq_reverse_foldlM_cons, Option.map_map,
        Option.map_eq_map, Function.comp_def]
  | number starts number =>
      exact taken?_readIf_of_ne blanks (ne_of_startsNumeral starts (by decide))
  | _ => exact taken?_readIf_of_ne blanks (by decide)

theorem foldlM_push (parts : List α) :
    parts.foldlM (fun found part => some (part :: found)) [] = some parts.reverse := by
  have pushed : parts.foldlM (fun found part => some (part :: found)) [] = _ :=
    List.foldlM_pure
  rw [pushed, List.foldl_flip_cons_eq_append', List.append_nil]
  rfl

/-- Reading one more member pushes it on those that were found. -/
theorem taken?_pushMember (found : List (String × Json)) (name : String)
    (text afterColon : List Char) (value : Json) (left : List Char)
    (isColon : colon.taken? text = some ((), afterColon))
    (isValue : IsRead depth afterColon value left) :
    taken? (do
      colon
      pure ((name, ← Json.read depth) :: found)) text =
        (some ((name, value) :: found)).map (·, left) := by
  rw [IsRead] at isValue
  simp [isColon, isValue]

theorem taken?_rawMembers (reads : IsRead depth text tree rest) :
    (rawMembers depth).taken? text =
      match tree with
      | .object members => some (members, rest)
      | _ => none := by
  have form := form_of_read reads
  generalize blanks : text.dropWhile isBlank = begun at form
  cases form with
  | object parts short =>
      rename_i inside tail members
      rw [rawMembers, taken?_readIf blanks, if_pos (by decide), taken?_nested, taken?_map,
        taken?_members (fun found member => some (member :: found)) taken?_pushMember parts short,
        foldlM_push]
      simp
  | number starts number =>
      exact taken?_readIf_of_ne blanks (ne_of_startsNumeral starts (by decide))
  | _ => exact taken?_readIf_of_ne blanks (by decide)

theorem agrees_dictionary : dictionary.Agrees := by
  intro depth text rest tree reads
  simp only [dictionary, taken?_map, taken?_rawMembers reads]
  cases tree with
  | object members => rfl
  | _ => rfl

namespace Record

variable {record : Record σ α}

theorem taken?_accept (record : Record σ α) (draft : σ) (text : List Char) :
    (record.accept draft).taken? text = (record.finish draft).map (·, text) := by
  rw [accept]
  cases record.finish draft with
  | none => rfl
  | some value => rfl

/-- What one member of an object does to a draft. -/
def visit? (record : Record σ α) (seen : List String × σ) (member : String × Json) :
    Option (List String × σ) :=
  match record.field? member.1 with
  | none => some seen
  | some field =>
      if seen.1.contains member.1 then none
      else (field.decoder.ofJson? member.2).map fun change => (member.1 :: seen.1, change seen.2)

theorem draftOfMembers?_eq_foldlM (record : Record σ α) (members : List (String × Json))
    (seen : List String × σ) :
    record.draftOfMembers? members seen = members.foldlM record.visit? seen := by
  induction members generalizing seen with
  | nil => rfl
  | cons head rest ih =>
      rcases head with ⟨name, value⟩
      rw [draftOfMembers?, List.foldlM_cons, visit?]
      cases record.field? name with
      | none => exact ih seen
      | some field =>
          simp only
          split
          · rfl
          · cases field.decoder.ofJson? value with
            | none => rfl
            | some change => exact ih _

/-- A member is read as the tree of its value is taken, or walked over if nobody knows it. -/
theorem taken?_readMember (agrees : ∀ field ∈ record.fields, field.decoder.Agrees)
    (seen : List String × σ) (name : String) (text afterColon : List Char) (value : Json)
    (left : List Char) (isColon : colon.taken? text = some ((), afterColon))
    (isValue : IsRead depth afterColon value left) :
    (record.readMember depth seen name).taken? text =
      (record.visit? seen (name, value)).map (·, left) := by
  rw [readMember, visit?]
  cases known : record.field? name with
  | none => simp [isColon, taken?_skip isValue]
  | some field =>
      simp only [taken?_ite]
      split
      · rfl
      · have member : field ∈ record.fields := List.mem_of_find?_eq_some known
        simp only [taken?_bind, isColon, Option.bind_some, agrees field member isValue]
        cases field.decoder.ofJson? value with
        | none => rfl
        | some change => rfl

theorem taken?_endOfArray_of_end {isFirst : Bool}
    (ends : (nextPart ']' isFirst).taken? text = some (false, rest)) :
    endOfArray.taken? text = some ((), rest) := by
  rw [endOfArray, taken?_bind, taken?_significant, dropWhile_eq_of_nextPart_false ends]
  rfl

theorem taken?_endOfArray_of_part {isFirst : Bool}
    (goesOn : (nextPart ']' isFirst).taken? text = some (true, rest)) :
    endOfArray.taken? text = none := by
  rcases exists_of_nextPart_true goesOn with ⟨char, tail, blanks, notEnd⟩
  rw [endOfArray, taken?_bind, taken?_significant, blanks]
  simp

/-- An array is read field by field, and must not have an element left when no field is. -/
theorem taken?_readElements {fields : List (Field σ)}
    (agrees : ∀ field ∈ fields, field.decoder.Agrees) {isFirst : Bool} {elements : List Json}
    (parts : Parts ']' (IsRead depth) isFirst text elements rest) (draft : σ) :
    (readElements depth fields isFirst draft).taken? text =
      (draftOfElements? fields elements draft).map (·, rest) := by
  induction parts generalizing fields draft with
  | done ends =>
      cases fields with
      | nil =>
          rw [readElements, taken?_bind, taken?_endOfArray_of_end ends]
          rfl
      | cons field fields =>
          rw [readElements, taken?_bind, ends]
          rfl
  | more goesOn here later ih =>
      cases fields with
      | nil =>
          rw [readElements, taken?_bind, taken?_endOfArray_of_part goesOn]
          rfl
      | cons field fields =>
          rw [readElements, taken?_bind, goesOn, Option.bind_some]
          simp only [if_true, taken?_bind, agrees field (by simp) here, draftOfElements?]
          cases field.decoder.ofJson? _ with
          | none => rfl
          | some change => exact ih (fun field member => agrees field (by simp [member])) _

theorem taken?_read_of_ne {first : Char} {tail : List Char}
    (blanks : text.dropWhile isBlank = first :: tail) (noArray : first ≠ '[')
    (noObject : first ≠ '\x7b') : (record.read depth).taken? text = none := by
  rw [read, taken?_bind, taken?_significant, Option.bind_some, blanks]
  simp only [List.head?_cons]
  split
  · next same => exact absurd (Option.some.inj same) noObject
  · next same => exact absurd (Option.some.inj same) noArray
  · exact taken?_wrongKind _

/-- A record agrees if all its fields do. -/
theorem agrees (agrees : ∀ field ∈ record.fields, field.decoder.Agrees) :
    record.decoder.Agrees := by
  intro depth text rest tree reads
  have form := form_of_read reads
  generalize blanks : text.dropWhile isBlank = begun at form
  simp only [decoder]
  cases form with
  | object parts short =>
      rename_i inside tail members
      have begins : (record.read (inside + 1)).taken? text =
          (record.readMembers inside).taken? tail := by
        rw [read, taken?_bind, taken?_significant, Option.bind_some, blanks]
        exact taken?_nested
      rw [begins, readMembers, taken?_bind,
        taken?_members record.visit? (taken?_readMember agrees) parts short]
      simp only [ofJson?, draftOfMembers?_eq_foldlM]
      cases members.foldlM record.visit? _ with
      | none => rfl
      | some seen => exact taken?_accept record seen.2 rest
  | array parts short =>
      rename_i inside tail elements
      have begins : (record.read (inside + 1)).taken? text = taken? (do
          record.accept (← readElements inside record.fields true record.draft)) tail := by
        rw [read, taken?_bind, taken?_significant, Option.bind_some, blanks]
        exact taken?_nested
      rw [begins, taken?_bind, taken?_readElements agrees parts]
      simp only [ofJson?]
      cases draftOfElements? record.fields elements record.draft with
      | none => rfl
      | some draft => exact taken?_accept record draft rest
  | number starts number =>
      exact taken?_read_of_ne blanks (ne_of_startsNumeral starts (by decide))
        (ne_of_startsNumeral starts (by decide))
  | _ => exact taken?_read_of_ne blanks (by decide) (by decide)

end Record

theorem toOption_run (reader : Reader α) (text : List Char) :
    (reader.run text).toOption =
      (reader.taken? text).bind fun result =>
        if (result.2.dropWhile isBlank).isEmpty then some result.1 else none := by
  rw [Reader.run, taken?]
  cases reader text with
  | error fault => rfl
  | ok result =>
      simp only [Option.bind_some]
      split
      · rfl
      · rfl

/-- A whole text that is a document decodes as its tree does. -/
theorem Agrees.decode {decoder : Decoder α} (agrees : decoder.Agrees) {text : String}
    (reads : readWhole Json.read text = .ok tree) :
    (decoder.decode text).toOption = decoder.ofJson? tree := by
  have whole := toOption_run (Json.read depthLimit) text.toList
  rw [readWhole] at reads
  rw [reads] at whole
  rcases Option.bind_eq_some_iff.1 whole.symm with ⟨⟨found, rest⟩, isRead, ended⟩
  have blank : (rest.dropWhile isBlank).isEmpty = true ∧ found = tree := by
    simpa only [Option.ite_none_right_eq_some, Option.some.injEq] using ended
  rcases blank with ⟨blank, rfl⟩
  rw [Decoder.decode, readWhole, toOption_run, agrees isRead, Option.bind_map]
  simp only [Function.comp_def, blank, if_true, Option.bind_fun_some]

theorem toOption_decodeTree (decoder : Decoder α) {text : String}
    (reads : readWhole Json.read text = .ok tree) :
    (decoder.decodeTree text).toOption = decoder.ofJson? tree.canonical := by
  have parses : Json.parse text = .ok tree.canonical := by
    rw [Json.parse, reads]
    rfl
  rw [decodeTree, parses]
  simp only [bind, Except.bind]
  cases decoder.ofJson? tree.canonical with
  | none => rfl
  | some value => rfl

end Decoder

end PhysicsScene
