import Mathlib.Data.List.Nodup
import PhysicsScene.Dictionary.Lemmas
import PhysicsScene.Json.Value

/-!
# Trees with unique keys

A document tree with unique keys says the same whether its objects are kept in the order of the
text or in the order of their keys. What decides everything is a look-up: in an object with unique
keys, the canonical members answer every look-up with the canonical form of what was written. A
canonical tree always has unique keys, and it is its own canonical form.
-/

namespace PhysicsScene

namespace Json

/-- Induction over a tree, with a hypothesis for each element of an array and each member of an
object. -/
@[elab_as_elim]
theorem induction {motive : Json → Prop} (null : motive .null)
    (boolean : ∀ value, motive (.boolean value)) (number : ∀ value, motive (.number value))
    (text : ∀ value, motive (.text value))
    (array : ∀ elements, (∀ element ∈ elements, motive element) → motive (.array elements))
    (object : ∀ members : List (String × Json), (∀ member ∈ members, motive member.2) →
      motive (.object members))
    (tree : Json) : motive tree := by
  refine @Json.rec motive (fun elements => ∀ element ∈ elements, motive element)
    (fun members => ∀ member ∈ members, motive member.2) (fun member => motive member.2)
    null boolean number text array object ?_ ?_ ?_ ?_ ?_ tree
  · intro element absurdity
    cases absurdity
  · intro head rest headHolds restHolds element member
    rcases List.mem_cons.1 member with rfl | inRest
    · exact headHolds
    · exact restHolds element inRest
  · intro member absurdity
    cases absurdity
  · intro head rest headHolds restHolds member isMember
    rcases List.mem_cons.1 isMember with rfl | inRest
    · exact headHolds
    · exact restHolds member inRest
  · intro name value holds
    exact holds

/-- No object of the tree has two equal keys. -/
inductive UniqueKeys : Json → Prop
  | null : UniqueKeys .null
  | boolean (value : Bool) : UniqueKeys (.boolean value)
  | number (value : Number) : UniqueKeys (.number value)
  | text (value : String) : UniqueKeys (.text value)
  | array {elements : List Json} (parts : ∀ element ∈ elements, UniqueKeys element) :
      UniqueKeys (.array elements)
  | object {members : List (String × Json)} (distinct : (members.map (·.1)).Nodup)
      (parts : ∀ member ∈ members, UniqueKeys member.2) : UniqueKeys (.object members)

theorem UniqueKeys.element {elements : List Json} (unique : UniqueKeys (.array elements))
    {element : Json} (member : element ∈ elements) : element.UniqueKeys := by
  cases unique with
  | array parts => exact parts element member

theorem UniqueKeys.distinct {members : List (String × Json)}
    (unique : UniqueKeys (.object members)) : (members.map (·.1)).Nodup := by
  cases unique with
  | object distinct parts => exact distinct

theorem lookup_map {α β : Type} (change : α → β) (members : List (String × α)) (name : String) :
    (members.map fun member => (member.1, change member.2)).lookup name =
      (members.lookup name).map change := by
  induction members with
  | nil => rfl
  | cons head rest ih =>
      rcases head with ⟨key, first⟩
      simp only [List.map_cons, Dictionary.lookup_cons_ite, ih]
      split
      · rfl
      · rfl

theorem mem_of_lookup {members : List (String × Json)} {name : String} {value : Json}
    (found : members.lookup name = some value) : (name, value) ∈ members := by
  induction members with
  | nil => cases found
  | cons head rest ih =>
      rcases head with ⟨key, first⟩
      rw [Dictionary.lookup_cons_ite] at found
      split at found
      · next same =>
        cases found
        simp [same]
      · exact List.mem_cons_of_mem _ (ih found)

theorem UniqueKeys.member {members : List (String × Json)} (unique : UniqueKeys (.object members))
    {name : String} {value : Json} (found : members.lookup name = some value) :
    value.UniqueKeys := by
  cases unique with
  | object distinct parts => exact parts _ (mem_of_lookup found)

theorem lookup_eq_none_of_notMem {members : List (String × Json)} {name : String}
    (missing : name ∉ members.map (·.1)) : members.lookup name = none := by
  cases found : members.lookup name with
  | none => rfl
  | some value => exact absurd (List.mem_map_of_mem (mem_of_lookup found)) missing

theorem mem_iff_lookup {members : List (String × Json)} (distinct : (members.map (·.1)).Nodup)
    (name : String) (value : Json) :
    (name, value) ∈ members ↔ members.lookup name = some value := by
  refine ⟨fun member => ?_, mem_of_lookup⟩
  induction members with
  | nil => cases member
  | cons head rest ih =>
      rcases head with ⟨key, first⟩
      rcases List.nodup_cons.1 distinct with ⟨fresh, restDistinct⟩
      rcases List.mem_cons.1 member with same | inRest
      · cases same
        simp
      · have other : name ≠ key := by
          rintro rfl
          exact fresh (List.mem_map.2 ⟨_, inRest, rfl⟩)
        simp [Dictionary.lookup_cons_ite, other, ih restDistinct inRest]

/-- In an object with unique keys a look-up finds all that was written under a key. -/
theorem valuesAt_eq {members : List (String × Json)} (distinct : (members.map (·.1)).Nodup)
    (name : String) : valuesAt name members = (members.lookup name).toList := by
  induction members with
  | nil => rfl
  | cons head rest ih =>
      rcases head with ⟨key, first⟩
      rcases List.nodup_cons.1 distinct with ⟨fresh, restDistinct⟩
      have later : valuesAt name rest = (rest.lookup name).toList := ih restDistinct
      simp only [valuesAt] at later
      by_cases same : key = name
      · subst same
        simp [valuesAt, later, lookup_eq_none_of_notMem fresh]
      · simp [valuesAt, later, same, Ne.symm same, Dictionary.lookup_cons_ite]

theorem lookup_of_perm {members order : List (String × Json)}
    (distinct : (members.map (·.1)).Nodup) (perm : order.Perm members) (name : String) :
    order.lookup name = members.lookup name := by
  have orderDistinct : (order.map (·.1)).Nodup := (perm.map _).nodup_iff.2 distinct
  apply Option.ext
  intro value
  rw [← mem_iff_lookup distinct, ← mem_iff_lookup orderDistinct]
  exact perm.mem_iff

@[simp]
theorem canonicalElements_eq (elements : List Json) :
    canonical.canonicalElements elements = elements.map canonical := by
  induction elements with
  | nil => rfl
  | cons head rest ih => simp [canonical.canonicalElements, ih]

/-- Each canonical member is the canonical form of a member that was written. -/
theorem exists_of_mem_canonicalMembers {members : List (String × Json)} {name : String}
    {value : Json} (member : (name, value) ∈ canonical.canonicalMembers members) :
    ∃ written, (name, written) ∈ members ∧ value = written.canonical := by
  induction members with
  | nil => cases member
  | cons head rest ih =>
      rcases head with ⟨key, first⟩
      simp only [canonical.canonicalMembers] at member
      split at member
      · rcases ih member with ⟨written, inRest, same⟩
        exact ⟨written, List.mem_cons_of_mem _ inRest, same⟩
      · rcases Dictionary.mem_insertEntry member with same | inLater
        · cases same
          exact ⟨first, by simp, rfl⟩
        · rcases ih inLater with ⟨written, inRest, same⟩
          exact ⟨written, List.mem_cons_of_mem _ inRest, same⟩

/-- In an object with unique keys the canonical members answer as the members do. -/
theorem lookup_canonicalMembers {members : List (String × Json)}
    (distinct : (members.map (·.1)).Nodup) (name : String) :
    (canonical.canonicalMembers members).lookup name = (members.lookup name).map canonical := by
  induction members generalizing name with
  | nil => rfl
  | cons head rest ih =>
      rcases head with ⟨key, first⟩
      rcases List.nodup_cons.1 distinct with ⟨fresh, restDistinct⟩
      have unseen : (canonical.canonicalMembers rest).lookup key = none := by
        rw [ih restDistinct, lookup_eq_none_of_notMem fresh, Option.map_none]
      simp only [canonical.canonicalMembers, unseen, Option.isSome_none, Bool.false_eq_true,
        if_false]
      rw [Dictionary.lookup_insertEntry, Dictionary.lookup_cons_ite, ih restDistinct]
      split
      · rfl
      · rfl

theorem distinct_of_ordered {members : List (String × Json)}
    (ordered : members.Pairwise (fun first second => first.1 < second.1)) :
    (members.map (·.1)).Nodup := by
  rw [List.Nodup, List.pairwise_map]
  refine ordered.imp ?_
  intro first second below same
  exact String.lt_irrefl second.1 (same ▸ below)

theorem distinct_canonicalMembers (members : List (String × Json)) :
    ((canonical.canonicalMembers members).map (·.1)).Nodup :=
  distinct_of_ordered (ordered_canonicalMembers members)

/-- Whatever tree was written, its canonical form has unique keys. -/
theorem uniqueKeys_canonical (tree : Json) : tree.canonical.UniqueKeys := by
  induction tree using Json.induction with
  | null => exact .null
  | boolean value => exact .boolean value
  | number value => exact .number value
  | text value => exact .text value
  | array elements ih =>
      simp only [canonical, canonicalElements_eq]
      refine .array fun part member => ?_
      rcases List.mem_map.1 member with ⟨element, isElement, rfl⟩
      exact ih element isElement
  | object members ih =>
      refine .object (distinct_canonicalMembers members) fun member isMember => ?_
      rcases exists_of_mem_canonicalMembers isMember with ⟨written, inMembers, same⟩
      rw [same]
      exact ih _ inMembers

/-- Members in increasing order stay in their order. -/
theorem canonicalMembers_of_ordered {members : List (String × Json)}
    (ordered : members.Pairwise (fun first second => first.1 < second.1)) :
    canonical.canonicalMembers members =
      members.map fun member => (member.1, member.2.canonical) := by
  refine Dictionary.eq_of_lookup_eq (ordered_canonicalMembers members) ?_ fun name => ?_
  · rwa [List.pairwise_map]
  · rw [lookup_canonicalMembers (distinct_of_ordered ordered), lookup_map]

/-- A canonical tree is its own canonical form. -/
@[simp]
theorem canonical_canonical (tree : Json) : tree.canonical.canonical = tree.canonical := by
  induction tree using Json.induction with
  | null => rfl
  | boolean value => rfl
  | number value => rfl
  | text value => rfl
  | array elements ih =>
      simp only [canonical, canonicalElements_eq, List.map_map, Json.array.injEq]
      exact List.map_congr_left ih
  | object members ih =>
      simp only [canonical, Json.object.injEq]
      rw [canonicalMembers_of_ordered (ordered_canonicalMembers members)]
      refine (List.map_congr_left fun member isMember => ?_).trans (List.map_id _)
      rcases exists_of_mem_canonicalMembers isMember with ⟨written, inMembers, same⟩
      rw [same, ih _ inMembers, ← same]
      rfl

/-- A tree in which every object has each key once, in increasing order. -/
def IsCanonical (tree : Json) : Prop :=
  tree.canonical = tree

namespace IsCanonical

variable {elements : List Json} {members : List (String × Json)}

theorem uniqueKeys {tree : Json} (canonical : tree.IsCanonical) : tree.UniqueKeys := by
  rw [← canonical]
  exact uniqueKeys_canonical tree

theorem canonicalMembers_eq (canonical : IsCanonical (.object members)) :
    Json.canonical.canonicalMembers members = members := by
  simpa [IsCanonical, Json.canonical] using canonical

theorem element (canonical : IsCanonical (.array elements)) {element : Json}
    (member : element ∈ elements) : element.IsCanonical := by
  have same : elements.map Json.canonical = elements := by
    simpa [IsCanonical, Json.canonical] using canonical
  rw [← same] at member
  rcases List.mem_map.1 member with ⟨written, _, rfl⟩
  exact canonical_canonical written

theorem member (canonical : IsCanonical (.object members)) {name : String} {value : Json}
    (found : members.lookup name = some value) : value.IsCanonical := by
  have member := mem_of_lookup found
  rw [← canonical.canonicalMembers_eq] at member
  rcases exists_of_mem_canonicalMembers member with ⟨written, _, rfl⟩
  exact canonical_canonical written

end IsCanonical

end Json

end PhysicsScene
