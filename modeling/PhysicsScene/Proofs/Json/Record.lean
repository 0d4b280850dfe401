import PhysicsScene.Json.Decoder
import PhysicsScene.Proofs.Json.Canonical

/-!
# Records by their parts

A record may be written as an object, with its members in any order and with others between them,
or as an array of its fields in order. Either way nothing counts but the parts that stand under the
names of its fields: `Record.ofJson?_eq` applies the fields one after the other in the order of the
record, each to its part. This needs fields whose changes may be made in either order.

A decoder ignores order if a tree with unique keys decodes as its canonical form does. Every way of
making a decoder that is used for scenes keeps this.
-/

namespace PhysicsScene

namespace Decoder

variable {α β σ : Type}

namespace Field

/-- What a field makes of a draft, given the part that stands for it, if there is one. -/
def applyPart? (field : Field σ) (part : Option Json) (draft : σ) : Option σ :=
  match part with
  | none => some draft
  | some value => (field.decoder.ofJson? value).map (· draft)

/-- The fields have different names, and their changes may be made in either order. -/
def Independent (first second : Field σ) : Prop :=
  first.name ≠ second.name ∧ ∀ part other draft,
    (first.applyPart? part draft).bind (second.applyPart? other) =
      (second.applyPart? other draft).bind (first.applyPart? part)

end Field

@[simp]
theorem Field.applyPart?_none (field : Field σ) (draft : σ) :
    field.applyPart? none draft = some draft :=
  rfl

@[simp]
theorem applyPart?_field (name : String) (decoder : Decoder α) (put : α → σ → σ) (value : Json)
    (draft : σ) :
    (field name decoder put).applyPart? (some value) draft =
      (decoder.ofJson? value).map fun found => put found draft := by
  simp only [Field.applyPart?, field, map, Option.map_eq_map, Option.map_map]
  rfl

theorem independent_field {name other : String} {decoder : Decoder α} {otherDecoder : Decoder β}
    {put : α → σ → σ} {otherPut : β → σ → σ} (different : name ≠ other)
    (commute : ∀ value otherValue draft,
      otherPut otherValue (put value draft) = put value (otherPut otherValue draft)) :
    (field name decoder put).Independent (field other otherDecoder otherPut) := by
  refine ⟨different, ?_⟩
  intro part otherPart draft
  cases part with
  | none =>
      have nothing : (field name decoder put).applyPart? none = some := rfl
      simp [nothing]
  | some value =>
      cases otherPart with
      | none =>
          have nothing : (field other otherDecoder otherPut).applyPart? none = some := rfl
          simp [nothing]
      | some otherValue =>
          simp only [applyPart?_field, Option.bind_map, Function.comp_def]
          cases decoder.ofJson? value with
          | none => simp
          | some found =>
              cases otherDecoder.ofJson? otherValue with
              | none => rfl
              | some otherFound => simp [commute]

/-- Applies fields one after the other, each to the part under its name. -/
def applyParts? (part : String → Option Json) (fields : List (Field σ)) (draft : σ) : Option σ :=
  fields.foldlM (fun draft field => field.applyPart? (part field.name) draft) draft

@[simp]
theorem applyParts?_nil (part : String → Option Json) (draft : σ) :
    applyParts? part [] draft = some draft :=
  rfl

@[simp]
theorem applyParts?_cons (part : String → Option Json) (field : Field σ) (fields : List (Field σ))
    (draft : σ) :
    applyParts? part (field :: fields) draft =
      (field.applyPart? (part field.name) draft).bind (applyParts? part fields) := by
  rw [applyParts?, List.foldlM_cons]
  rfl

theorem applyParts?_congr {part other : String → Option Json} {fields : List (Field σ)}
    (same : ∀ field ∈ fields, ∀ draft : σ,
      field.applyPart? (part field.name) draft = field.applyPart? (other field.name) draft)
    (draft : σ) :
    applyParts? part fields draft = applyParts? other fields draft := by
  induction fields generalizing draft with
  | nil => rfl
  | cons head rest ih =>
      rw [applyParts?_cons, applyParts?_cons, same head (by simp)]
      congr 1
      funext next
      exact ih (fun field member => same field (by simp [member])) next

theorem applyParts?_of_absent {part : String → Option Json} {fields : List (Field σ)}
    (absent : ∀ field ∈ fields, part field.name = none) (draft : σ) :
    applyParts? part fields draft = some draft := by
  induction fields with
  | nil => rfl
  | cons head rest ih =>
      rw [applyParts?_cons, absent head (by simp)]
      exact ih fun field member => absent field (by simp [member])

/-- The part of one field may be applied before all others. -/
theorem applyParts?_first {part : String → Option Json} {fields : List (Field σ)}
    (independent : fields.Pairwise Field.Independent) {field : Field σ} (member : field ∈ fields)
    (absent : part field.name = none) (value : Json) (draft : σ) :
    applyParts? (fun name => if name = field.name then some value else part name) fields draft =
      (field.applyPart? (some value) draft).bind (applyParts? part fields) := by
  induction fields generalizing draft with
  | nil => cases member
  | cons head rest ih =>
      rcases List.pairwise_cons.1 independent with ⟨headIndependent, restIndependent⟩
      rcases List.mem_cons.1 member with rfl | inRest
      · rw [applyParts?_cons, if_pos rfl]
        congr 1
        funext next
        rw [applyParts?_cons, absent]
        apply applyParts?_congr
        intro other inRest draft
        rw [if_neg (headIndependent other inRest).1.symm]
      · -- The head changes the draft before the field does, which comes to the same.
        have apart := headIndependent field inRest
        rw [applyParts?_cons, if_neg apart.1]
        calc
          _ = (head.applyPart? (part head.name) draft).bind fun next =>
                (field.applyPart? (some value) next).bind (applyParts? part rest) := by
            congr 1
            funext next
            exact ih restIndependent inRest next
          _ = ((head.applyPart? (part head.name) draft).bind (field.applyPart? (some value))).bind
                (applyParts? part rest) := by
            rw [Option.bind_assoc]
          _ = ((field.applyPart? (some value) draft).bind (head.applyPart? (part head.name))).bind
                (applyParts? part rest) := by
            rw [apart.2]
          _ = _ := by
            rw [Option.bind_assoc]
            congr 1

namespace Record

variable {record : Record σ α}

theorem mem_of_field? {name : String} {field : Field σ} (found : record.field? name = some field) :
    field ∈ record.fields ∧ field.name = name := by
  refine ⟨List.mem_of_find?_eq_some found, ?_⟩
  simpa using List.find?_some found

theorem name_ne_of_field?_eq_none {name : String} (unknown : record.field? name = none) :
    ∀ field ∈ record.fields, field.name ≠ name := by
  intro field member
  simpa using List.find?_eq_none.1 unknown field member

/-- Members of an object with unique keys change the draft as the look-ups of the fields do. -/
theorem draftOfMembers?_eq (independent : record.fields.Pairwise Field.Independent)
    {members : List (String × Json)} (distinct : (members.map (·.1)).Nodup) {seen : List String}
    (fresh : ∀ member ∈ members, member.1 ∉ seen) (draft : σ) :
    (record.draftOfMembers? members (seen, draft)).map (·.2) =
      applyParts? (members.lookup ·) record.fields draft := by
  induction members generalizing seen draft with
  | nil =>
      simp only [draftOfMembers?, Option.map_some]
      exact (applyParts?_of_absent (fun _ _ => rfl) draft).symm
  | cons head rest ih =>
      rcases head with ⟨name, value⟩
      rcases List.nodup_cons.1 distinct with ⟨notLater, restDistinct⟩
      have restFresh : ∀ member ∈ rest, member.1 ∉ seen := fun member inRest =>
        fresh member (List.mem_cons_of_mem _ inRest)
      simp only [Dictionary.lookup_cons_ite, draftOfMembers?]
      cases known : record.field? name with
      | none =>
          simp only
          rw [ih restDistinct restFresh]
          apply applyParts?_congr
          intro field member draft
          rw [if_neg (name_ne_of_field?_eq_none known field member)]
      | some field =>
          rcases mem_of_field? known with ⟨member, rfl⟩
          have isFresh : seen.contains field.name = false := by
            simpa using fresh (field.name, value) (by simp)
          have absent : rest.lookup field.name = none := Json.lookup_eq_none_of_notMem notLater
          rw [applyParts?_first independent member absent]
          simp only [isFresh, Bool.false_eq_true, if_false, Field.applyPart?]
          cases field.decoder.ofJson? value with
          | none => rfl
          | some change =>
              refine ih restDistinct (fun later inRest => ?_) (change draft)
              have notName : later.1 ≠ field.name := by
                intro same
                exact notLater (List.mem_map.2 ⟨later, inRest, same⟩)
              simp [notName, restFresh later inRest]

/-- Elements of an array change the draft as members under the names of the fields do. -/
theorem draftOfElements?_eq {fields : List (Field σ)}
    (independent : fields.Pairwise Field.Independent) (elements : List Json) (draft : σ) :
    draftOfElements? fields elements draft =
      if elements.length ≤ fields.length then
        applyParts? (((fields.map (·.name)).zip elements).lookup ·) fields draft
      else none := by
  induction fields generalizing elements draft with
  | nil => cases elements <;> simp [draftOfElements?]
  | cons head rest ih =>
      rcases List.pairwise_cons.1 independent with ⟨headIndependent, restIndependent⟩
      cases elements with
      | nil =>
          simp only [draftOfElements?, List.length_nil, Nat.zero_le, if_true, List.zip_nil_right]
          exact (applyParts?_of_absent (fun _ _ => rfl) draft).symm
      | cons value later =>
          have others : ∀ next : σ,
              applyParts? ((((head :: rest).map (·.name)).zip (value :: later)).lookup ·) rest
                  next =
                applyParts? (((rest.map (·.name)).zip later).lookup ·) rest next := by
            intro next
            apply applyParts?_congr
            intro field member draft
            rw [List.map_cons, List.zip_cons_cons, Dictionary.lookup_cons_ite,
              if_neg (headIndependent field member).1.symm]
          have first : (((head :: rest).map (·.name)).zip (value :: later)).lookup head.name =
              some value := by
            simp
          rw [applyParts?_cons, first]
          simp only [draftOfElements?, List.length_cons, Nat.add_le_add_iff_right, Field.applyPart?]
          cases head.decoder.ofJson? value with
          | none => split <;> rfl
          | some change =>
              simp only [Option.map_some, Option.bind_some, others]
              exact ih restIndependent later (change draft)

/-- The members of an object, or those that an array stands for if it is not too long. -/
def membersOf? (record : Record σ α) : Json → Option (List (String × Json))
  | .object members => some members
  | .array elements =>
      if elements.length ≤ record.fields.length then
        some ((record.fields.map (·.name)).zip elements)
      else none
  | _ => none

/-- In either form a record is made of the parts under the names of its fields. -/
theorem ofJson?_eq (independent : record.fields.Pairwise Field.Independent) {tree : Json}
    (unique : tree.UniqueKeys) :
    record.ofJson? tree =
      (record.membersOf? tree).bind fun members =>
        (applyParts? (members.lookup ·) record.fields record.draft).bind record.finish := by
  cases tree with
  | object members =>
      have drafts : (record.draftOfMembers? members ([], record.draft)).map (·.2) = _ :=
        draftOfMembers?_eq independent unique.distinct (by simp) record.draft
      simp only [membersOf?, Option.bind_some, ← drafts, ofJson?]
      cases record.draftOfMembers? members ([], record.draft) <;> rfl
  | array elements =>
      simp only [ofJson?, draftOfElements?_eq independent, membersOf?]
      split
      · rfl
      · rfl
  | _ => rfl

end Record

/-- A tree with unique keys decodes as its canonical form does. -/
def IgnoresOrder (decoder : Decoder α) : Prop :=
  ∀ tree : Json, tree.UniqueKeys → decoder.ofJson? tree.canonical = decoder.ofJson? tree

theorem IgnoresOrder.map {decoder : Decoder α} (ignores : decoder.IgnoresOrder) (change : α → β) :
    (decoder.map change).IgnoresOrder := by
  intro tree unique
  simp only [Decoder.map, ignores tree unique]

theorem ignoresOrder_anything : anything.IgnoresOrder := by
  intro tree unique
  simp only [anything, Json.canonical_canonical]

theorem ignoresOrder_numberBy (accept : Number → Option α) : (numberBy accept).IgnoresOrder := by
  intro tree unique
  cases tree <;> rfl

theorem ignoresOrder_dictionary : dictionary.IgnoresOrder := by
  intro tree unique
  cases tree with
  | object members =>
      have same : Json.canonical.canonicalMembers (Json.canonical.canonicalMembers members) =
          Json.canonical.canonicalMembers members := by
        simpa only [Json.canonical, Json.object.injEq] using
          Json.canonical_canonical (.object members)
      simp only [dictionary, Json.canonical, Json.dictionary, same]
  | _ => rfl

theorem IgnoresOrder.nullable {decoder : Decoder α} (ignores : decoder.IgnoresOrder) :
    (nullable decoder).IgnoresOrder := by
  intro tree unique
  cases tree with
  | null => rfl
  | _ => exact congrArg (some <$> ·) (ignores _ unique)

theorem IgnoresOrder.list {decoder : Decoder α} (ignores : decoder.IgnoresOrder) :
    (list decoder).IgnoresOrder := by
  intro tree unique
  cases tree with
  | array elements =>
      simp only [Decoder.list, Json.canonical, Json.canonicalElements_eq]
      have parts : ∀ element ∈ elements, element.UniqueKeys := fun _ => unique.element
      clear unique
      induction elements with
      | nil => rfl
      | cons head rest ih =>
          rw [List.map_cons, List.mapM_cons, List.mapM_cons, ignores head (parts head (by simp)),
            ih fun element member => parts element (by simp [member])]
  | _ => rfl

namespace Record

variable {record : Record σ α}

/-- The canonical form has the canonical parts under the same names. -/
theorem lookup_membersOf?_canonical (record : Record σ α) {tree : Json} (unique : tree.UniqueKeys) :
    (record.membersOf? tree.canonical).map (fun members => (members.lookup ·)) =
      (record.membersOf? tree).map fun members name =>
        (members.lookup name).map Json.canonical := by
  cases tree with
  | object members =>
      simp only [membersOf?, Json.canonical, Option.map_some, Option.some.injEq]
      funext name
      exact Json.lookup_canonicalMembers unique.distinct name
  | array elements =>
      simp only [membersOf?, Json.canonical, Json.canonicalElements_eq, List.length_map]
      split
      · simp only [Option.map_some, Option.some.injEq]
        funext name
        rw [List.zip_map_right, ← Json.lookup_map]
        rfl
      · rfl
  | _ => rfl

theorem uniqueKeys_of_lookup_membersOf? {tree : Json} (unique : tree.UniqueKeys)
    {members : List (String × Json)} (read : record.membersOf? tree = some members)
    {name : String} {value : Json} (found : members.lookup name = some value) :
    value.UniqueKeys := by
  cases tree with
  | object own =>
      cases read
      exact unique.member found
  | array elements =>
      simp only [membersOf?, Option.ite_none_right_eq_some, Option.some.injEq] at read
      obtain ⟨-, rfl⟩ := read
      exact unique.element (List.of_mem_zip (Json.mem_of_lookup found)).2
  | _ => cases read

/-- A record ignores order if all its fields do. -/
theorem ignoresOrder (independent : record.fields.Pairwise Field.Independent)
    (ignores : ∀ field ∈ record.fields, field.decoder.IgnoresOrder) :
    record.decoder.IgnoresOrder := by
  intro tree unique
  have lookups := lookup_membersOf?_canonical record unique
  simp only [decoder]
  rw [ofJson?_eq independent (Json.uniqueKeys_canonical tree), ofJson?_eq independent unique]
  cases read : record.membersOf? tree with
  | none =>
      rw [read, Option.map_none, Option.map_eq_none_iff] at lookups
      rw [lookups]
  | some members =>
      rw [read, Option.map_some, Option.map_eq_some_iff] at lookups
      obtain ⟨canonical, readCanonical, lookups⟩ := lookups
      rw [readCanonical, Option.bind_some, Option.bind_some]
      congr 1
      apply applyParts?_congr
      intro field member draft
      have part : canonical.lookup field.name = (members.lookup field.name).map Json.canonical :=
        congrFun lookups field.name
      rw [part]
      cases found : members.lookup field.name with
      | none => rfl
      | some value =>
          have ignored := ignores field member value
            (uniqueKeys_of_lookup_membersOf? unique read found)
          simp only [Option.map_some, Field.applyPart?, ignored]

end Record

end Decoder

end PhysicsScene
