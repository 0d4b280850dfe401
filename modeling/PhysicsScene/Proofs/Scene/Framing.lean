import PhysicsScene.Proofs.Scene.Decoding

/-!
# The world of a document

Whether a scene has a world and a list of bodies shows in its document: each of them is missing from
the scene exactly if it is missing from the document or `null` there. The same goes for the two
sizes of the world, whose numbers are rounded once (`Scene.IsFramedBy`).
-/

namespace PhysicsScene

namespace Decoder

/-- A part that is decoded is taken as missing if it is missing or `null`. -/
theorem eq_none_iff_of_part? {α : Type} {decoder : Decoder α} {part : Option Json}
    {found : Option α} (decoded : decoder.part? part = some found) :
    found = none ↔ part = none ∨ part = some .null := by
  rcases part with _ | value
  · cases decoded
    simp
  · cases value with
    | null =>
        cases decoded
        simp
    | _ =>
        simp only [part?, nullable, Option.map_eq_map, Option.map_eq_some_iff] at decoded
        rcases decoded with ⟨value, -, rfl⟩
        simp

end Decoder

namespace WorldExtent

/-- The size that a part of a document gives. -/
inductive IsSize : Option Json → Option Float32 → Prop
  | missing : IsSize none none
  | null : IsSize (some .null) none
  | number {value : Number} {size : Float32} (rounds : value.RoundsTo size) :
      IsSize (some (.number value)) (some size)

theorem isSize_of_part? {part : Option Json} {size : Option Float32}
    (decoded : Decoder.single.part? part = some size) : IsSize part size := by
  rcases part with _ | value
  · cases decoded
    exact .missing
  · cases value with
    | null =>
        cases decoded
        exact .null
    | number value =>
        cases decoded
        exact .number ((value.roundsTo_iff _).2 rfl)
    | _ => cases decoded

/-- The extent has the sizes of a value. -/
inductive IsOf (value : Json) (extent : WorldExtent) : Prop
  | intro {members : List (String × Json)}
      (isMembers : Json.Members ["width", "height"] value members)
      (width : IsSize (members.lookup "width") extent.width)
      (height : IsSize (members.lookup "height") extent.height) : IsOf value extent

theorem isOf_of_ofJson? {value : Json} (unique : value.UniqueKeys) {extent : WorldExtent}
    (decoded : decoder.ofJson? value = some extent) : IsOf value extent := by
  rcases (Decoder.ofJson?_ofDraft_eq_some_iff independent unique).1 decoded with
    ⟨members, isMembers, applied⟩
  rcases (applyParts?_eq_some_iff _ extent).1 applied with ⟨width, height⟩
  exact .intro isMembers (isSize_of_part? width) (isSize_of_part? height)

end WorldExtent

namespace Scene

/-- What the parts of a document say about the world of a scene, and whether they list bodies. -/
structure IsFramedBy (scene : Scene) (parts : List (String × Json)) : Prop where
  bodies : scene.bodies = none ↔
    parts.lookup "bodies" = none ∨ parts.lookup "bodies" = some .null
  world : scene.world = none ↔ parts.lookup "world" = none ∨ parts.lookup "world" = some .null
  extent : ∀ extent, scene.world = some extent →
    ∃ value, parts.lookup "world" = some value ∧ WorldExtent.IsOf value extent

theorem members_lookup_uniqueKeys {value : Json} (unique : value.UniqueKeys) {names : List String}
    {parts : List (String × Json)} (isParts : Json.Members names value parts) {name : String}
    {part : Json} (found : parts.lookup name = some part) : part.UniqueKeys := by
  rcases isParts with _ | short
  · exact unique.member found
  · exact unique.element (List.of_mem_zip (Json.mem_of_lookup found)).2

theorem exists_isFramedBy {text : String} {document : Json} {scene : Scene}
    (reads : Json.readWhole Json.read text = .ok document) (unique : document.UniqueKeys)
    (decoded : decode text = .ok scene) :
    ∃ parts, Json.Members partNames document parts ∧ scene.IsFramedBy parts := by
  have direct : (decode text).toOption = decoder.ofJson? document := agrees.decode reads
  rw [decoded] at direct
  rcases (Decoder.ofJson?_ofDraft_eq_some_iff independent unique).1 direct.symm with
    ⟨parts, isParts, applied⟩
  rcases (applyParts?_eq_some_iff _ scene).1 applied with ⟨world, bodies, -, -⟩
  refine ⟨parts, isParts, ?_, ?_, ?_⟩
  · exact Decoder.eq_none_iff_of_part? bodies
  · exact Decoder.eq_none_iff_of_part? world
  · intro extent isExtent
    rw [isExtent] at world
    cases found : parts.lookup "world" with
    | none =>
        rw [found] at world
        cases world
    | some value =>
        rw [found] at world
        refine ⟨value, rfl, ?_⟩
        apply WorldExtent.isOf_of_ofJson? (members_lookup_uniqueKeys unique isParts found)
        cases value with
        | null => cases world
        | _ => simpa [Decoder.part?, Decoder.nullable] using world

end Scene

end PhysicsScene
