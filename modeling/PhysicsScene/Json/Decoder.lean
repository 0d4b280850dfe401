import PhysicsScene.Json.Tree

/-!
# Decoding typed values

A `Decoder` turns JSON into a typed value in two ways: while it reads a text (`read`), where the
first problem in reading order decides and unwanted members are only walked over, and from a
finished document tree (`ofJson?`). The combinators below build both ways at once.
-/

namespace PhysicsScene

/-- Two ways to a typed value; a text is read with a budget of open brackets. -/
structure Decoder (α : Type) where
  read : (depth : Nat) → Reader α
  ofJson? : Json → Option α

namespace Decoder

/--
Reads a value that has the wrong kind. A scalar is read to its end, so that a fault inside it
counts before its kind; of an array or an object only the opening bracket is looked at.
-/
def wrongKind {α : Type} : Reader α := do
  match ← Reader.significant with
  | none => Reader.fail .truncated
  | some first => do
      let _ ← Json.readScalarOr
        (fun bracket =>
          if bracket = '[' || bracket = '\x7b' then Reader.fail .mismatched
          else Reader.fail .malformed)
        first
      Reader.fail .mismatched

/-- Decodes a whole text. -/
def decode {α : Type} (decoder : Decoder α) (text : String) : Except Fault α :=
  Json.readWhole decoder.read text

/-- Decodes a text by way of its canonical document tree. -/
def decodeTree {α : Type} (decoder : Decoder α) (text : String) : Except Fault α := do
  let tree ← Json.parse text
  match decoder.ofJson? tree with
  | some value => pure value
  | none => throw .mismatched

/-- Reads a value that starts with a given character; `accept` reads it. -/
def readIf {α : Type} (starts : Char → Bool) (accept : Reader α) : Reader α := do
  match ← Reader.significant with
  | none => Reader.fail .truncated
  | some first => if starts first then accept else wrongKind

/-- Turns the results of a decoder into other values. -/
def map {α β : Type} (f : α → β) (decoder : Decoder α) : Decoder β where
  read depth := f <$> decoder.read depth
  ofJson? json := f <$> decoder.ofJson? json

/-- Any value, in canonical form. -/
def anything : Decoder Json where
  read depth := Json.canonical <$> Json.read depth
  ofJson? json := some json.canonical

/-- A truth value. -/
def boolean : Decoder Bool where
  read _ := readIf (fun first => first = 't' || first = 'f') do
    match ← Reader.peek with
    | some 't' => do
        Reader.word ['t', 'r', 'u', 'e']
        pure true
    | _ => do
        Reader.word ['f', 'a', 'l', 's', 'e']
        pure false
  ofJson?
    | .boolean value => some value
    | _ => none

/-- A string. -/
def text : Decoder String where
  read _ := readIf (· = '"') do
    Reader.drop
    Quoted.text
  ofJson?
    | .text value => some value
    | _ => none

/-- A number of which a part of the values is accepted. -/
def numberBy {α : Type} (accept : Number → Option α) : Decoder α where
  read _ := readIf Json.startsNumeral do
    match accept (← Numeral.number) with
    | some value => pure value
    | none => Reader.fail .mismatched
  ofJson?
    | .number value => accept value
    | _ => none

/-- A single-precision number. -/
def single : Decoder Float32 :=
  numberBy fun number => some number.toSingle

/-- An unsigned 64-bit integer. -/
def unsigned : Decoder UInt64 :=
  numberBy Number.toUInt64?

/-- A value that may be `null`. -/
def nullable {α : Type} (decoder : Decoder α) : Decoder (Option α) where
  read depth := do
    match ← Reader.significant with
    | some 'n' => do
        Reader.word ['n', 'u', 'l', 'l']
        pure none
    | _ => some <$> decoder.read depth
  ofJson?
    | .null => some none
    | json => some <$> decoder.ofJson? json

/-- An array of values of one kind. -/
def list {α : Type} (decoder : Decoder α) : Decoder (List α) where
  read depth := readIf (· = '[') <| Reader.nested depth fun inside =>
    List.reverse <$> Reader.elements (fun read => do pure ((← decoder.read inside) :: read)) []
  ofJson?
    | .array elements => elements.mapM decoder.ofJson?
    | _ => none

/-- The members of an object, in the order of the text. -/
def rawMembers (depth : Nat) : Reader (List (String × Json)) :=
  readIf (· = '\x7b') <| Reader.nested depth fun inside =>
    List.reverse <$> Reader.members (fun read key => do
      Reader.colon
      pure ((key, ← Json.read inside) :: read)) []

/-- An object whose members may have any names and values. -/
def dictionary : Decoder (Dictionary Json) where
  read depth := Json.dictionary <$> rawMembers depth
  ofJson?
    | .object members => some (Json.dictionary members)
    | _ => none

/-- A named part of a record; decoding it gives a change of the record's draft. -/
structure Field (σ : Type) where
  name : String
  decoder : Decoder (σ → σ)

/-- A field that puts a decoded value into the draft. -/
def field {σ α : Type} (name : String) (decoder : Decoder α) (put : α → σ → σ) : Field σ :=
  ⟨name, decoder.map put⟩

/--
A record: an object with known members, or an array of its fields in order. An object may leave
members out and have unknown ones, but must not repeat a known one; an array may stop early but
must not be longer. `finish` refuses a draft that lacks a required field.
-/
structure Record (σ α : Type) where
  fields : List (Field σ)
  draft : σ
  finish : σ → Option α

namespace Record

variable {σ α : Type}

/-- A record that reads as its own draft, since every field may be missing. -/
def ofDraft (draft : σ) (fields : List (Field σ)) : Record σ σ :=
  ⟨fields, draft, some⟩

/-- The field of a name. -/
def field? (record : Record σ α) (name : String) : Option (Field σ) :=
  record.fields.find? (·.name = name)

/-- Accepts a draft that has all it needs. -/
def accept (record : Record σ α) (draft : σ) : Reader α :=
  match record.finish draft with
  | some value => pure value
  | none => Reader.fail .mismatched

/-- Reads a member: of a known name once, of an unknown one only walking over its value. -/
def readMember (record : Record σ α) (depth : Nat) (seen : List String × σ) (name : String) :
    Reader (List String × σ) :=
  match record.field? name with
  | none => do
      Reader.colon
      Json.skip
      pure seen
  | some field =>
      if seen.1.contains name then Reader.fail .mismatched
      else do
        Reader.colon
        let change ← field.decoder.read depth
        pure (name :: seen.1, change seen.2)

/-- Reads the members of an object. -/
def readMembers (record : Record σ α) (depth : Nat) : Reader α := do
  let (_, draft) ← Reader.members (record.readMember depth) ([], record.draft)
  record.accept draft

/-- Expects the end of an array that has no field left. -/
def endOfArray : Reader Unit := do
  match ← Reader.significant with
  | none => Reader.fail .truncated
  | some ']' => Reader.drop
  | some _ => Reader.fail .malformed

/-- Reads the fields of an array in order, as far as it goes. -/
def readElements (depth : Nat) : List (Field σ) → (isFirst : Bool) → σ → Reader σ
  | [], _, draft => do
      endOfArray
      pure draft
  | field :: rest, isFirst, draft => do
      if ← Reader.nextPart ']' isFirst then
        let change ← field.decoder.read depth
        readElements depth rest false (change draft)
      else pure draft

/-- Reads a record in either form. -/
def read (record : Record σ α) (depth : Nat) : Reader α := do
  match ← Reader.significant with
  | some '\x7b' => Reader.nested depth record.readMembers
  | some '[' => Reader.nested depth fun inside => do
      record.accept (← readElements inside record.fields true record.draft)
  | _ => wrongKind

/-- Changes a draft by the members of an object, none of which may repeat a known name. -/
def draftOfMembers? (record : Record σ α) :
    List (String × Json) → List String × σ → Option (List String × σ)
  | [], seen => some seen
  | (name, value) :: rest, seen =>
      match record.field? name with
      | none => draftOfMembers? record rest seen
      | some field =>
          if seen.1.contains name then none
          else do
            let change ← field.decoder.ofJson? value
            draftOfMembers? record rest (name :: seen.1, change seen.2)

/-- Changes a draft by the elements of an array, of which there may be fewer than fields. -/
def draftOfElements? : List (Field σ) → List Json → σ → Option σ
  | _, [], draft => some draft
  | [], _ :: _, _ => none
  | field :: fields, value :: rest, draft => do
      let change ← field.decoder.ofJson? value
      draftOfElements? fields rest (change draft)

/-- The record of a document tree. -/
def ofJson? (record : Record σ α) : Json → Option α
  | .object members => do
      let (_, draft) ← record.draftOfMembers? members ([], record.draft)
      record.finish draft
  | .array elements => do
      let draft ← draftOfElements? record.fields elements record.draft
      record.finish draft
  | _ => none

/-- The decoder of a record. -/
def decoder (record : Record σ α) : Decoder α :=
  ⟨record.read, record.ofJson?⟩

end Record

end Decoder

end PhysicsScene
