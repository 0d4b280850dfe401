import PhysicsScene.Body.Properties
import PhysicsScene.Proofs.Json.Canonical
import PhysicsScene.Proofs.Json.Written
import PhysicsScene.Proofs.Json.Yields

/-!
# Trees survive their text

A tree without real numbers is written so that reading gives it back, if its brackets are within the
depth (`spells_chars`). The depth that a whole text is read with is the deepest nesting of such a
tree, with the outermost bracket counted. The properties of a body are a tree of this kind, so what a
renderer decodes from their text is what a scene put in.
-/

namespace PhysicsScene

namespace Json

open Reader

/-- How many brackets of the text of a tree are open at a time. -/
def nesting : Json → Nat
  | .array elements => elementsNesting elements + 1
  | .object members => membersNesting members + 1
  | _ => 0
where
  /-- The deepest nesting in the elements of an array. -/
  elementsNesting : List Json → Nat
    | [] => 0
    | element :: rest => max element.nesting (elementsNesting rest)
  /-- The deepest nesting in the members of an object. -/
  membersNesting : List (String × Json) → Nat
    | [] => 0
    | (_, value) :: rest => max value.nesting (membersNesting rest)

/-- Whether a number in the tree is none of the integers. -/
def hasReal : Json → Bool
  | .number (.real _ _) => true
  | .array elements => elementsHaveReal elements
  | .object members => membersHaveReal members
  | _ => false
where
  /-- Whether an element of an array has a real number. -/
  elementsHaveReal : List Json → Bool
    | [] => false
    | element :: rest => element.hasReal || elementsHaveReal rest
  /-- Whether a member of an object has a real number. -/
  membersHaveReal : List (String × Json) → Bool
    | [] => false
    | (_, value) :: rest => value.hasReal || membersHaveReal rest

theorem elementsNesting_le_iff (elements : List Json) (depth : Nat) :
    nesting.elementsNesting elements ≤ depth ↔ ∀ element ∈ elements, element.nesting ≤ depth := by
  induction elements with
  | nil => simp [nesting.elementsNesting]
  | cons first rest ih =>
      rw [nesting.elementsNesting, Nat.max_le, ih, List.forall_mem_cons]

theorem membersNesting_le_iff (members : List (String × Json)) (depth : Nat) :
    nesting.membersNesting members ≤ depth ↔ ∀ member ∈ members, member.2.nesting ≤ depth := by
  induction members with
  | nil => simp [nesting.membersNesting]
  | cons first rest ih =>
      rw [nesting.membersNesting, Nat.max_le, ih, List.forall_mem_cons]

theorem elementsHaveReal_eq_false_iff (elements : List Json) :
    hasReal.elementsHaveReal elements = false ↔ ∀ element ∈ elements, element.hasReal = false := by
  induction elements with
  | nil => simp [hasReal.elementsHaveReal]
  | cons first rest ih => simp [hasReal.elementsHaveReal, ih]

theorem membersHaveReal_eq_false_iff (members : List (String × Json)) :
    hasReal.membersHaveReal members = false ↔ ∀ member ∈ members, member.2.hasReal = false := by
  induction members with
  | nil => simp [hasReal.membersHaveReal]
  | cons first rest ih =>
      rw [hasReal.membersHaveReal, Bool.or_eq_false_iff, ih, List.forall_mem_cons]

theorem elementsChars_eq (elements : List Json) :
    chars.elementsChars elements = elements.map chars := by
  induction elements with
  | nil => rfl
  | cons first rest ih => simp [chars.elementsChars, ih]

theorem membersChars_eq (members : List (String × Json)) :
    chars.membersChars members = members.map fun member => (member.1, member.2.chars) := by
  induction members with
  | nil => rfl
  | cons first rest ih => simp [chars.membersChars, ih]

/-- The text of a tree spells the tree, if its brackets are within the depth. -/
theorem spells_chars (tree : Json) (discrete : tree.hasReal = false) {depth : Nat}
    (within : tree.nesting ≤ depth) : Spells depth tree.chars tree := by
  induction tree using Json.induction generalizing depth with
  | null => exact spells_null depth
  | boolean value => exact spells_boolean depth value
  | number value =>
      cases value with
      | integer value inRange => exact spells_integer depth inRange
      | real value finite => cases discrete
  | text value => exact spells_text depth value
  | array elements ih =>
      cases depth with
      | zero => cases within
      | succ inside =>
          have discreteParts := (elementsHaveReal_eq_false_iff elements).1 discrete
          have parts := (elementsNesting_le_iff elements inside).1 (Nat.le_of_succ_le_succ within)
          rw [chars, elementsChars_eq]
          refine spells_array ?_
          rw [List.forall₂_map_left_iff, List.forall₂_same]
          exact fun element member =>
            ih element member (discreteParts element member) (parts element member)
  | object members ih =>
      cases depth with
      | zero => cases within
      | succ inside =>
          have discreteParts := (membersHaveReal_eq_false_iff members).1 discrete
          have parts := (membersNesting_le_iff members inside).1 (Nat.le_of_succ_le_succ within)
          rw [chars, membersChars_eq]
          refine spells_object ?_
          rw [List.forall₂_map_left_iff, List.forall₂_same]
          exact fun member isMember => ⟨rfl,
            ih member isMember (discreteParts member isMember) (parts member isMember)⟩

/-- A text that spells a tree is a whole document. -/
theorem readWhole_of_spells {written : List Char} {tree : Json}
    (spells : Spells depthLimit written tree) :
    readWhole read (String.ofList written) = .ok tree := by
  have form := spells ends_nil
  rw [List.append_nil] at form
  have reads := (taken?_eq_some_iff _ _ _).1 (isRead_of_form form)
  rw [readWhole, Reader.run, String.toList_ofList, reads]
  rfl

end Json

/-- What a decoder makes of a tree it also makes of a text that spells the tree. -/
theorem Decoder.Agrees.decode_of_spells {α : Type} {decoder : Decoder α} (agrees : decoder.Agrees)
    {written : List Char} {tree : Json} (spells : Json.Spells Json.depthLimit written tree)
    {value : α} (isValue : decoder.ofJson? tree = some value) :
    decoder.decode (String.ofList written) = .ok value := by
  have decoded := agrees.decode (Json.readWhole_of_spells spells)
  rw [isValue] at decoded
  cases result : decoder.decode (String.ofList written) with
  | error fault =>
      rw [result] at decoded
      cases decoded
  | ok found =>
      rw [result] at decoded
      cases decoded
      rfl

namespace Properties

/-- The tree of a property map. -/
def tree (properties : Properties) : Json :=
  .object properties.entries

/-- Every map that is decoded is canonical. -/
theorem isCanonical_of_decode {text : String} {properties : Properties}
    (decoded : Decoder.dictionary.decode text = .ok properties) : properties.tree.IsCanonical := by
  have yields : (Decoder.dictionary.read Json.depthLimit).Yields fun properties : Properties =>
      properties.tree.IsCanonical :=
    Reader.yields_map <| Reader.yields_of_forall fun members =>
      Json.canonical_canonical (.object members)
  exact yields.of_run decoded

/--
A map that its text keeps: the trees in it are canonical, as all that come from a text are, no
number in it is real, and its brackets, its own among them, are within the depth of a text.
-/
structure IsForwardable (properties : Properties) : Prop where
  canonical : properties.tree.IsCanonical
  discrete : properties.tree.hasReal = false
  within : properties.tree.nesting ≤ Json.depthLimit

theorem dictionary_entries {properties : Properties} (canonical : properties.tree.IsCanonical) :
    Json.dictionary properties.entries = properties := by
  have same : (Json.dictionary properties.entries).entries = properties.entries :=
    canonical.canonicalMembers_eq
  cases properties
  simpa [Json.dictionary] using same

theorem decode_dictionaryChars {properties : Properties} (forwardable : properties.IsForwardable) :
    Decoder.dictionary.decode (String.ofList (Json.dictionaryChars properties)) =
      .ok properties :=
  Decoder.agrees_dictionary.decode_of_spells
    (Json.spells_chars properties.tree forwardable.discrete forwardable.within)
    (congrArg some (dictionary_entries forwardable.canonical))

/-- Properties without real numbers survive their text, so their text tells them apart. -/
theorem survive {properties : Properties} (forwardable : properties.IsForwardable) :
    Decoder.dictionary.decode (String.ofList (Json.dictionaryChars properties)) = .ok properties ∧
      ∀ other : Properties, other.IsForwardable →
        Json.dictionaryChars other = Json.dictionaryChars properties → other = properties := by
  have decoded := decode_dictionaryChars forwardable
  refine ⟨decoded, fun other otherForwardable same => ?_⟩
  have otherDecoded := decode_dictionaryChars otherForwardable
  rw [same, decoded] at otherDecoded
  exact (Except.ok.inj otherDecoded).symm

/-- The ends of the integer range, marks and control characters in a nested map. -/
def awkward : Properties :=
  Json.dictionary [("limits", .array [.number (.integer 18446744073709551615 (by decide)),
      .number (.integer (-9223372036854775808) (by decide))]),
    ("\"\\", .object [("é", .text "\x00\x1f\x7f\n"), ("", .null)])]

theorem survive_awkward : awkward.IsForwardable ∧
    Decoder.dictionary.decode (String.ofList (Json.dictionaryChars awkward)) = .ok awkward := by
  have forwardable : awkward.IsForwardable := ⟨by rfl, by rfl, by decide⟩
  exact ⟨forwardable, (survive forwardable).1⟩

end Properties

end PhysicsScene
