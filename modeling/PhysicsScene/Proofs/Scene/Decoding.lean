import PhysicsScene.Proofs.Json.Agreement
import PhysicsScene.Proofs.Scene.Meaning

/-!
# The two ways to a scene

A scene is decoded while its text is read, or by way of the canonical tree of the text. Both ways
agree on every document in which no object repeats a key. Two things make the difference between
them: the text has its members in an order of its own, and it has members that nobody wants. The
first does not matter because everything a scene takes from an object is a look-up, which unique
keys make independent of the order; the second because whatever is read is also walked over.
-/

namespace PhysicsScene

namespace Json

theorem canonical_eq_number_iff (tree : Json) (value : Number) :
    tree.canonical = .number value ↔ tree = .number value := by
  cases tree <;> simp [canonical]

/-- Taking some members out of an object leaves the same dictionary in either order. -/
theorem dictionary_membersExcept_canonicalMembers {members : List (String × Json)}
    (distinct : (members.map (·.1)).Nodup) (keys : List String) :
    dictionary (membersExcept keys (canonical.canonicalMembers members)) =
      dictionary (membersExcept keys members) := by
  have ordered := distinct_canonicalMembers members
  apply Dictionary.ext_find?
  intro name
  rw [Dictionary.find?, Dictionary.find?, dictionary, dictionary,
    lookup_canonicalMembers (distinct_membersExcept ordered keys),
    lookup_canonicalMembers (distinct_membersExcept distinct keys), lookup_membersExcept,
    lookup_membersExcept, lookup_canonicalMembers distinct]
  split
  · rfl
  · simp [Function.comp_def, canonical_canonical]

end Json

namespace SceneEntry

theorem isPosition_canonical_iff {place : Json} (unique : place.UniqueKeys) (position : Vector2) :
    IsPosition place.canonical position ↔ IsPosition place position := by
  cases place with
  | object members =>
      have coordinate : ∀ name (value : Number),
          (Json.canonical.canonicalMembers members).lookup name = some (.number value) ↔
            members.lookup name = some (.number value) := by
        intro name value
        rw [Json.lookup_canonicalMembers unique.distinct]
        simp [Json.canonical_eq_number_iff]
      constructor
      · rintro (⟨isX, isY, roundsX, roundsY⟩)
        exact .object ((coordinate _ _).1 isX) ((coordinate _ _).1 isY) roundsX roundsY
      · rintro (⟨isX, isY, roundsX, roundsY⟩)
        exact .object ((coordinate _ _).2 isX) ((coordinate _ _).2 isY) roundsX roundsY
  | array elements =>
      rw [Json.canonical, Json.canonicalElements_eq]
      constructor
      · intro isPosition
        generalize same : elements.map Json.canonical = canonical at isPosition
        cases isPosition with
        | array roundsX roundsY =>
            simp only [List.map_eq_cons_iff, List.map_eq_nil_iff,
              Json.canonical_eq_number_iff] at same
            rcases same with ⟨_, _, rfl, rfl, _, _, rfl, rfl, rfl⟩
            exact .array roundsX roundsY
      · rintro (_ | ⟨roundsX, roundsY⟩)
        exact .array roundsX roundsY
  | _ => rfl

end SceneEntry

namespace BodyPlan

variable {members : List (String × Json)}

theorem position?_canonical {place : Json} (unique : place.UniqueKeys) :
    position? place.canonical = position? place := by
  apply Option.ext
  intro position
  rw [position?_eq_some_iff (Json.uniqueKeys_canonical place), position?_eq_some_iff unique]
  exact SceneEntry.isPosition_canonical_iff unique position

theorem optional?_canonicalMembers {α : Type} (distinct : (members.map (·.1)).Nodup) (name : String)
    {decode : Json → Option α}
    (ignores : ∀ value, members.lookup name = some value → decode value.canonical = decode value) :
    optional? (Json.canonical.canonicalMembers members) name decode =
      optional? members name decode := by
  have ordered := Json.distinct_canonicalMembers members
  rw [optional?_eq ordered, optional?_eq distinct, Json.lookup_canonicalMembers distinct]
  cases found : members.lookup name with
  | none => rfl
  | some value =>
      have same := ignores value found
      cases value with
      | null => rfl
      | _ => exact congrArg (some <$> ·) same

theorem nameOf_canonicalMembers (distinct : (members.map (·.1)).Nodup) :
    SceneEntry.nameOf (Json.canonical.canonicalMembers members) = SceneEntry.nameOf members := by
  rw [SceneEntry.nameOf, SceneEntry.nameOf, Json.lookup_canonicalMembers distinct, Option.bind_map]
  congr 1
  funext value
  cases value <;> rfl

theorem ofMembers?_canonicalMembers (unique : Json.UniqueKeys (.object members)) :
    ofMembers? (Json.canonical.canonicalMembers members) = ofMembers? members := by
  have distinct := unique.distinct
  have ordered := Json.distinct_canonicalMembers members
  have position : optional? (Json.canonical.canonicalMembers members) "position" position? =
      optional? members "position" position? := by
    apply optional?_canonicalMembers distinct
    intro place found
    exact position?_canonical (unique.member found)
  simp only [ofMembers?, name?_eq ordered, name?_eq distinct, nameOf_canonicalMembers distinct,
    Json.dictionary_membersExcept_canonicalMembers distinct, position]
  rw [optional?_canonicalMembers distinct "shape"]
  intro shape found
  cases shape <;> rfl

end BodyPlan

/-- An element of a list of bodies is the same entry in either order of keys. -/
theorem SceneEntry.ofJson_canonical {value : Json} (unique : value.UniqueKeys) :
    ofJson value.canonical = ofJson value := by
  cases value with
  | object members =>
      simp only [Json.canonical, ofJson, BodyPlan.ofMembers?_canonicalMembers unique]
      cases BodyPlan.ofMembers? members with
      | some plan => rfl
      | none => exact congrArg malformed (Json.canonical_canonical (.object members))
  | _ => exact congrArg malformed (Json.canonical_canonical _)

open Decoder

namespace WorldExtent

theorem agrees : decoder.Agrees := by
  apply Record.agrees
  simp only [record, Record.ofDraft, List.mem_cons, List.not_mem_nil, or_false, forall_eq_or_imp,
    forall_eq]
  constructor
  · exact (agrees_numberBy _).nullable.map _
  · exact (agrees_numberBy _).nullable.map _

theorem ignoresOrder : decoder.IgnoresOrder := by
  apply Record.ignoresOrder independent
  simp only [record, Record.ofDraft, List.mem_cons, List.not_mem_nil, or_false, forall_eq_or_imp,
    forall_eq]
  constructor
  · exact (ignoresOrder_numberBy _).nullable.map _
  · exact (ignoresOrder_numberBy _).nullable.map _

end WorldExtent

namespace Scene

theorem agrees_entryDecoder : entryDecoder.Agrees :=
  agrees_of_tree (fun _ => rfl) fun _ => rfl

theorem ignoresOrder_entryDecoder : entryDecoder.IgnoresOrder := by
  intro tree unique
  simp only [entryDecoder, SceneEntry.ofJson_canonical unique]

theorem agrees : decoder.Agrees := by
  apply Record.agrees
  simp only [record, Record.ofDraft, List.mem_cons, List.not_mem_nil, or_false, forall_eq_or_imp,
    forall_eq]
  refine ⟨?_, ?_, ?_, ?_⟩
  · exact WorldExtent.agrees.nullable.map _
  · exact agrees_entryDecoder.list.nullable.map _
  · exact (agrees_anything.map _).list.nullable.map _
  · exact (agrees_dictionary.map _).nullable.map _

theorem ignoresOrder : decoder.IgnoresOrder := by
  apply Record.ignoresOrder independent
  simp only [record, Record.ofDraft, List.mem_cons, List.not_mem_nil, or_false, forall_eq_or_imp,
    forall_eq]
  refine ⟨?_, ?_, ?_, ?_⟩
  · exact WorldExtent.ignoresOrder.nullable.map _
  · exact ignoresOrder_entryDecoder.list.nullable.map _
  · exact (ignoresOrder_anything.map _).list.nullable.map _
  · exact (ignoresOrder_dictionary.map _).nullable.map _

/-- The same values stand under the names of the parts, up to the order of keys inside them. -/
def SameParts (first second : List (String × Json)) : Prop :=
  ∀ name ∈ partNames, (first.lookup name).map Json.canonical =
    (second.lookup name).map Json.canonical

theorem ofJson?_congr {first second : List (String × Json)}
    (unique : Json.UniqueKeys (.object first)) (otherUnique : Json.UniqueKeys (.object second))
    (same : SameParts first second) :
    decoder.ofJson? (.object first) = decoder.ofJson? (.object second) := by
  have ofRecord : ∀ tree, decoder.ofJson? tree = record.ofJson? tree := fun _ => rfl
  rw [← ignoresOrder _ unique, ← ignoresOrder _ otherUnique, ofRecord, ofRecord,
    Record.ofJson?_eq independent (Json.uniqueKeys_canonical _),
    Record.ofJson?_eq independent (Json.uniqueKeys_canonical _)]
  simp only [Json.canonical, Record.membersOf?, Option.bind_some]
  congr 1
  apply applyParts?_congr
  intro field member draft
  have known : field.name ∈ partNames := List.mem_map_of_mem member
  rw [Json.lookup_canonicalMembers unique.distinct,
    Json.lookup_canonicalMembers otherUnique.distinct, same field.name known]

/-- A document in which no object repeats a key decodes to the same scene in both ways. Neither the
order of its members nor a member that is no part of a scene has anything to do with it. -/
theorem decode_agrees {text : String} {document : Json}
    (reads : Json.readWhole Json.read text = .ok document) (unique : document.UniqueKeys) :
    (decode text).toOption = decoder.ofJson? document.canonical ∧
      (decodeTree text).toOption = decoder.ofJson? document.canonical ∧
      ∀ members other otherMembers, document = .object members →
        Json.readWhole Json.read other = .ok (.object otherMembers) →
        Json.UniqueKeys (.object otherMembers) → SameParts members otherMembers →
        (decode other).toOption = (decode text).toOption := by
  have direct : (decode text).toOption = decoder.ofJson? document := agrees.decode reads
  refine ⟨?_, ?_, ?_⟩
  · rw [direct, ignoresOrder document unique]
  · exact toOption_decodeTree decoder reads
  · rintro members other otherMembers rfl otherReads otherUnique same
    have otherDirect : (decode other).toOption = decoder.ofJson? (.object otherMembers) :=
      agrees.decode otherReads
    rw [direct, otherDirect, ofJson?_congr unique otherUnique same]

/-- Two texts of one scene. The first has its members out of order and one that is no part, with
brackets to walk over; the second has neither. -/
theorem decode_agrees_reordered :
    let text := "\x7b\"world\":\x7b\"width\":1,\"height\":2\x7d," ++
      "\"note\":[[\"\\ud83d\\ude00\"]],\"bodies\":[\x7b\"shape\":\"disc\",\"position\":[3,4]\x7d,7]\x7d"
    let other := "\x7b\"bodies\":[\x7b\"position\":[3,4],\"shape\":\"disc\"\x7d,7]," ++
      "\"world\":\x7b\"height\":2,\"width\":1\x7d\x7d"
    ∃ document scene, Json.readWhole Json.read text = .ok document ∧ document.UniqueKeys ∧
      (decode text).toOption = some scene ∧ (decodeTree text).toOption = some scene ∧
      (decode other).toOption = some scene ∧ scene.bodies.map List.length = some 2 := by
  intro text other
  let number (value : Fin 100) : Json := .number (.integer value.val (by
    unfold Number.InRange
    omega))
  let extent : Json := .object [("width", number 1), ("height", number 2)]
  let place : Json := .array [number 3, number 4]
  let disc : Json := .object [("shape", .text "disc"), ("position", place)]
  let note : Json := .array [.array [.text "😀"]]
  let members : List (String × Json) :=
    [("world", extent), ("note", note), ("bodies", .array [disc, number 7])]
  let otherMembers : List (String × Json) :=
    [("bodies", .array [disc.canonical, number 7]), ("world", extent.canonical)]
  have reads : Json.readWhole Json.read text = .ok (.object members) := by
    unfold text
    rfl
  have otherReads : Json.readWhole Json.read other = .ok (.object otherMembers) := by
    unfold other
    rfl
  have unique : Json.UniqueKeys (.object members) := by
    have numbers : ∀ value, (number value).UniqueKeys := fun value => .number _
    have isPlace : place.UniqueKeys := .array (by simp [numbers])
    have isDisc : disc.UniqueKeys := .object (by decide) (by simp [isPlace, Json.UniqueKeys.text])
    have isExtent : extent.UniqueKeys := .object (by decide) (by simp [numbers])
    have isNote : note.IsCanonical := by rfl
    have bodies : Json.UniqueKeys (.array [disc, number 7]) := .array (by simp [isDisc, numbers])
    exact .object (by decide) (by simp [members, isExtent, isNote.uniqueKeys, bodies])
  have otherUnique : Json.UniqueKeys (.object otherMembers) := by
    have canonical : Json.IsCanonical (.object otherMembers) := by rfl
    exact canonical.uniqueKeys
  have same : SameParts members otherMembers := by
    intro name known
    simp only [partNames, List.mem_cons, List.not_mem_nil, or_false] at known
    rcases known with rfl | rfl | rfl | rfl <;> rfl
  have agreed := decode_agrees reads unique
  have isScene : (decoder.ofJson? (Json.object members).canonical).isSome := by rfl
  have bodies : (decoder.ofJson? (Json.object members).canonical).map
      (fun scene => scene.bodies.map List.length) = some (some 2) := by rfl
  rcases Option.isSome_iff_exists.1 isScene with ⟨scene, decoded⟩
  rw [decoded] at agreed bodies
  rcases agreed with ⟨direct, second, reordered⟩
  refine ⟨_, scene, reads, unique, direct, second, ?_, Option.some.inj bodies⟩
  exact (reordered members other otherMembers rfl otherReads otherUnique same).trans direct

end Scene

end PhysicsScene
