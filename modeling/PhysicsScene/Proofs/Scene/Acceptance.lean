import PhysicsScene.Proofs.Json.Record
import PhysicsScene.Scene.Basic

/-!
# Which values stand for scenes

A scene asks little of a value: the kinds of its four parts and of the two numbers in its extent.
What stands inside the list of bodies, the list of diagnostics and the table of shapes is never a
reason to refuse the scene. The parts are independent of each other, so each is decoded for itself:
every element of a list gives one entry, and every member of the table either gives a template or is
left out. The table does not depend on the order in which its members are visited, since each
touches its own name only.
-/

namespace PhysicsScene

namespace Json

/-- A part that may be missing or `null`, and is of a kind otherwise. -/
inductive Optional (kind : Json → Prop) : Option Json → Prop
  | missing : Optional kind none
  | null : Optional kind (some .null)
  | present {value : Json} (holds : kind value) : Optional kind (some value)

inductive IsNumber : Json → Prop
  | number (value : Number) : IsNumber (.number value)

inductive IsArray : Json → Prop
  | array (elements : List Json) : IsArray (.array elements)

inductive IsObject : Json → Prop
  | object (members : List (String × Json)) : IsObject (.object members)

/-- The members of an object, or those for which the elements of an array stand in order. -/
inductive Members (names : List String) : Json → List (String × Json) → Prop
  | object (members : List (String × Json)) : Members names (.object members) members
  | array {elements : List Json} (short : elements.length ≤ names.length) :
      Members names (.array elements) (names.zip elements)

theorem Members.unique {names : List String} {value : Json} {first second : List (String × Json)}
    (isFirst : Members names value first) (isSecond : Members names value second) :
    first = second := by
  cases isFirst with
  | object =>
      cases isSecond
      rfl
  | array =>
      cases isSecond
      rfl

def elements? : Option Json → Option (List Json)
  | some (.array elements) => some elements
  | _ => none

def members? : Option Json → Option (List (String × Json))
  | some (.object members) => some members
  | _ => none

end Json

namespace Decoder

variable {α σ : Type}

/-- What becomes of a part that may be missing or `null`. -/
def part? (decoder : Decoder α) : Option Json → Option (Option α)
  | none => some none
  | some value => (nullable decoder).ofJson? value

theorem isSome_part? {decoder : Decoder α} {kind : Json → Prop} {part : Option Json}
    (accepts : ∀ value, part = some value → ((decoder.ofJson? value).isSome ↔ kind value)) :
    (decoder.part? part).isSome ↔ Json.Optional kind part := by
  constructor
  · intro accepted
    rcases part with _ | value
    · exact .missing
    · cases value with
      | null => exact .null
      | _ =>
          apply Json.Optional.present
          apply (accepts _ rfl).1
          simpa [part?, nullable] using accepted
  · rintro (_ | _ | holds)
    · rfl
    · rfl
    · rename_i value
      cases value with
      | null => rfl
      | _ => simpa [part?, nullable] using (accepts _ rfl).2 holds

theorem applyParts?_cons_nullable {name : String} {decoder : Decoder α} {put : Option α → σ → σ}
    {draft : σ} (untouched : put none draft = draft) (fields : List (Field σ))
    (part : String → Option Json) :
    applyParts? part (field name (nullable decoder) put :: fields) draft =
      (decoder.part? (part name)).bind fun found => applyParts? part fields (put found draft) := by
  rw [applyParts?_cons]
  change ((field name (nullable decoder) put).applyPart? (part name) draft).bind _ = _
  cases part name with
  | none => simp [part?, untouched]
  | some value =>
      rw [applyPart?_field, Option.bind_map]
      rfl

theorem membersOf?_eq_some_iff {record : Record σ α} {tree : Json}
    {members : List (String × Json)} :
    record.membersOf? tree = some members ↔
      Json.Members (record.fields.map (·.name)) tree members := by
  constructor
  · intro found
    cases tree with
    | object =>
        cases found
        exact .object members
    | array elements =>
        simp only [Record.membersOf?, Option.ite_none_right_eq_some, Option.some.injEq] at found
        rcases found with ⟨short, rfl⟩
        exact .array (by simpa using short)
    | _ => cases found
  · rintro (_ | short)
    · rfl
    · simpa [Record.membersOf?] using short

theorem ofJson?_ofDraft_eq_some_iff {draft result : σ} {fields : List (Field σ)}
    (independent : fields.Pairwise Field.Independent) {tree : Json} (unique : tree.UniqueKeys) :
    (Record.ofDraft draft fields).ofJson? tree = some result ↔
      ∃ members, Json.Members (fields.map (·.name)) tree members ∧
        applyParts? (members.lookup ·) fields draft = some result := by
  rw [Record.ofJson?_eq independent unique, Option.bind_eq_some_iff]
  simp only [membersOf?_eq_some_iff, Record.ofDraft, Option.bind_fun_some]

theorem isSome_numberBy (change : Number → α) (value : Json) :
    ((numberBy fun number => some (change number)).ofJson? value).isSome ↔ value.IsNumber := by
  constructor
  · intro accepted
    cases value with
    | number value => exact .number value
    | _ => simp [numberBy] at accepted
  · rintro ⟨number⟩
    rfl

/-- A list decoder that takes anything as an element makes one value of each element. -/
theorem part?_list {decoder : Decoder α} {change : Json → α}
    (total : ∀ value, decoder.ofJson? value = some (change value)) {part : Option Json}
    {found : Option (List α)} (decoded : (list decoder).part? part = some found) :
    found = (Json.elements? part).map (·.map change) := by
  have same : decoder.ofJson? = fun value => pure (change value) := funext total
  rcases part with _ | value
  · cases decoded
    rfl
  · cases value with
    | null =>
        cases decoded
        rfl
    | array elements =>
        simp only [part?, nullable, list, same, List.mapM_pure] at decoded
        cases decoded
        rfl
    | _ => cases decoded

theorem isSome_list {decoder : Decoder α} {change : Json → α}
    (total : ∀ value, decoder.ofJson? value = some (change value)) (value : Json) :
    ((list decoder).ofJson? value).isSome ↔ value.IsArray := by
  have same : decoder.ofJson? = fun value => pure (change value) := funext total
  constructor
  · intro accepted
    cases value with
    | array elements => exact .array elements
    | _ => simp [list] at accepted
  · rintro ⟨elements⟩
    simp only [list, same, List.mapM_pure]
    rfl

end Decoder

namespace WorldExtent

/-- The width and the height may be missing or `null`, and are numbers otherwise. -/
inductive IsExtent (value : Json) : Prop
  | intro {members : List (String × Json)}
      (isMembers : Json.Members ["width", "height"] value members)
      (width : Json.Optional Json.IsNumber (members.lookup "width"))
      (height : Json.Optional Json.IsNumber (members.lookup "height")) : IsExtent value

theorem independent : record.fields.Pairwise Decoder.Field.Independent :=
  List.pairwise_pair.2 (Decoder.independent_field (by decide) fun _ _ _ => rfl)

theorem applyParts?_eq_some_iff (part : String → Option Json) (extent : WorldExtent) :
    Decoder.applyParts? part record.fields record.draft = some extent ↔
      Decoder.single.part? (part "width") = some extent.width ∧
        Decoder.single.part? (part "height") = some extent.height := by
  simp only [record, Decoder.Record.ofDraft, Decoder.applyParts?_cons_nullable,
    Decoder.applyParts?_nil, Option.bind_eq_some_iff]
  constructor
  · rintro ⟨width, isWidth, height, isHeight, same⟩
    cases same
    exact ⟨isWidth, isHeight⟩
  · rintro ⟨isWidth, isHeight⟩
    exact ⟨extent.width, isWidth, extent.height, isHeight, rfl⟩

theorem isSome_ofJson? {value : Json} (unique : value.UniqueKeys) :
    (decoder.ofJson? value).isSome ↔ IsExtent value := by
  have accepts : ∀ part : Option Json,
      (Decoder.single.part? part).isSome ↔ Json.Optional Json.IsNumber part := fun part =>
    Decoder.isSome_part? fun value _ => Decoder.isSome_numberBy Number.toSingle value
  simp only [Option.isSome_iff_exists] at accepts ⊢
  constructor
  · rintro ⟨extent, decoded⟩
    rcases (Decoder.ofJson?_ofDraft_eq_some_iff independent unique).1 decoded with
      ⟨members, isMembers, applied⟩
    rcases (applyParts?_eq_some_iff _ extent).1 applied with ⟨width, height⟩
    exact .intro isMembers ((accepts _).1 ⟨_, width⟩) ((accepts _).1 ⟨_, height⟩)
  · rintro ⟨isMembers, isWidth, isHeight⟩
    rcases (accepts _).2 isWidth with ⟨width, foundWidth⟩
    rcases (accepts _).2 isHeight with ⟨height, foundHeight⟩
    refine ⟨⟨width, height⟩, ?_⟩
    apply (Decoder.ofJson?_ofDraft_eq_some_iff independent unique).2
    exact ⟨_, isMembers, (applyParts?_eq_some_iff _ _).2 ⟨foundWidth, foundHeight⟩⟩

end WorldExtent

namespace Template

/-- The base that a part gives; it may be missing or `null`. -/
inductive IsBase : Option Json → Option String → Prop
  | missing : IsBase none none
  | null : IsBase (some .null) none
  | text (name : String) : IsBase (some (.text name)) (some name)

/-- The options of a template are all members but the base. -/
def defaultsOf (members : List (String × Json)) : BodyOptions :=
  .ofDictionary (Json.dictionary (Json.membersExcept ["base"] members))

theorem part?_text_eq_some_iff (part : Option Json) (base : Option String) :
    Decoder.text.part? part = some base ↔ IsBase part base := by
  constructor
  · intro decoded
    rcases part with _ | value
    · cases decoded
      exact .missing
    · cases value with
      | null =>
          cases decoded
          exact .null
      | text name =>
          cases decoded
          exact .text name
      | _ => cases decoded
  · rintro (_ | _ | name)
    · rfl
    · rfl
    · rfl

theorem ofMembers?_eq {members : List (String × Json)} (distinct : (members.map (·.1)).Nodup) :
    ofMembers? members =
      (Decoder.text.part? (members.lookup "base")).map fun base => ⟨base, defaultsOf members⟩ := by
  simp only [ofMembers?, Json.valuesAt_eq distinct]
  cases members.lookup "base" with
  | none => rfl
  | some value =>
      simp only [Option.toList_some, Decoder.part?]
      cases (Decoder.nullable Decoder.text).ofJson? value with
      | none => rfl
      | some base => rfl

/-- A value is a template if it is an object whose base may be missing or `null`, and is a text
otherwise. -/
theorem ofJson?_eq_some_iff {value : Json} (unique : value.UniqueKeys) (pattern : Template) :
    decoder.ofJson? value = some pattern ↔
      ∃ members base, value = .object members ∧ IsBase (members.lookup "base") base ∧
        pattern = ⟨base, defaultsOf members⟩ := by
  constructor
  · intro decoded
    cases value with
    | object members =>
        change ofMembers? members = some pattern at decoded
        rw [ofMembers?_eq unique.distinct, Option.map_eq_some_iff] at decoded
        rcases decoded with ⟨base, isBase, rfl⟩
        exact ⟨members, base, rfl, (part?_text_eq_some_iff _ _).1 isBase, rfl⟩
    | _ => cases decoded
  · rintro ⟨members, base, rfl, isBase, rfl⟩
    change ofMembers? members = _
    rw [ofMembers?_eq unique.distinct, (part?_text_eq_some_iff _ _).2 isBase, Option.map_some]

end Template

namespace Overrides

theorem isSome_ofJson? (value : Json) : (decoder.ofJson? value).isSome ↔ value.IsObject := by
  constructor
  · intro accepted
    cases value with
    | object members => exact .object members
    | _ => cases accepted
  · rintro ⟨members⟩
    rfl

/-- Takes a member into the table if it is a template. -/
def visit (table : Overrides) (member : String × Json) : Overrides :=
  match Template.decoder.ofJson? member.2 with
  | some pattern => table.insert member.1 (.template pattern)
  | none => table

/-- The table has a template for each member that is one, in whatever order they are visited. -/
structure IsTableOf (members : List (String × Json)) (table : Overrides) : Prop where
  templates : ∀ name factory, table.find? name = some factory ↔
    ∃ parts base, members.lookup name = some (.object parts) ∧
      Template.IsBase (parts.lookup "base") base ∧
        factory = .template ⟨base, Template.defaultsOf parts⟩
  visited : ∀ order : List (String × Json), order.Perm members → order.foldl visit .empty = table

theorem find?_visit (table : Overrides) (member : String × Json) (name : String) :
    (visit table member).find? name =
      ((if name = member.1 then Template.decoder.ofJson? member.2 else none).map
        Factory.template <|> table.find? name) := by
  rw [visit]
  split
  · next pattern decoded =>
    rw [Dictionary.find?_insert]
    split
    · simp [decoded]
    · simp
  · next decoded => simp [decoded]

theorem find?_foldl_visit {order : List (String × Json)} (distinct : (order.map (·.1)).Nodup)
    (table : Overrides) (name : String) :
    (order.foldl visit table).find? name =
      (((order.lookup name).bind Template.decoder.ofJson?).map Factory.template <|>
        table.find? name) := by
  induction order generalizing table with
  | nil => simp
  | cons head rest ih =>
      rcases head with ⟨key, value⟩
      rcases List.nodup_cons.1 distinct with ⟨fresh, restDistinct⟩
      rw [List.foldl_cons, ih restDistinct, find?_visit, Dictionary.lookup_cons_ite]
      by_cases same : name = key
      · subst same
        simp [Json.lookup_eq_none_of_notMem fresh]
      · simp [same]

theorem isTableOf_ofDictionary {members : List (String × Json)}
    (canonical : Json.IsCanonical (.object members)) :
    IsTableOf members (ofDictionary (Json.dictionary members)) := by
  have distinct := canonical.uniqueKeys.distinct
  have find : ∀ name, (ofDictionary (Json.dictionary members)).find? name =
      ((members.lookup name).bind Template.decoder.ofJson?).map Factory.template := by
    intro name
    rw [ofDictionary, Dictionary.find?_filterMap, Dictionary.find?, Json.dictionary]
    simp only [canonical.canonicalMembers_eq, Option.map_bind]
    rfl
  constructor
  · intro name factory
    rw [find, Option.map_eq_some_iff]
    constructor
    · rintro ⟨pattern, decoded, rfl⟩
      rcases Option.bind_eq_some_iff.1 decoded with ⟨value, found, isPattern⟩
      have unique := (canonical.member found).uniqueKeys
      rcases (Template.ofJson?_eq_some_iff unique pattern).1 isPattern with
        ⟨parts, base, rfl, isBase, rfl⟩
      exact ⟨parts, base, found, isBase, rfl⟩
    · rintro ⟨parts, base, found, isBase, rfl⟩
      have unique := (canonical.member found).uniqueKeys
      refine ⟨⟨base, Template.defaultsOf parts⟩, ?_, rfl⟩
      rw [found, Option.bind_some]
      exact (Template.ofJson?_eq_some_iff unique _).2 ⟨parts, base, rfl, isBase, rfl⟩
  · intro order perm
    apply Dictionary.ext_find?
    intro name
    have orderDistinct : (order.map (·.1)).Nodup := (perm.map _).nodup_iff.2 distinct
    rw [find, find?_foldl_visit orderDistinct, Json.lookup_of_perm distinct perm]
    simp

end Overrides

namespace Scene

theorem independent : record.fields.Pairwise Decoder.Field.Independent := by
  simp only [record, Decoder.Record.ofDraft, List.pairwise_cons, List.mem_cons, List.not_mem_nil,
    or_false, forall_eq_or_imp, forall_eq, List.Pairwise.nil, and_true, IsEmpty.forall_iff,
    implies_true]
  refine ⟨⟨?_, ?_, ?_⟩, ⟨?_, ?_⟩, ?_⟩
  all_goals exact Decoder.independent_field (by decide) fun _ _ _ => rfl

theorem applyParts?_eq_some_iff (part : String → Option Json) (scene : Scene) :
    Decoder.applyParts? part record.fields record.draft = some scene ↔
      WorldExtent.decoder.part? (part "world") = some scene.world ∧
      (Decoder.list entryDecoder).part? (part "bodies") = some scene.bodies ∧
      (Decoder.list diagnosticDecoder).part? (part "errors") = some scene.diagnostics ∧
      Overrides.decoder.part? (part "shapeOverrides") = some scene.overrides := by
  simp only [record, Decoder.Record.ofDraft, empty, Decoder.applyParts?_cons_nullable,
    Decoder.applyParts?_nil, Option.bind_eq_some_iff]
  constructor
  · rintro ⟨world, isWorld, bodies, isBodies, diagnostics, isDiagnostics, overrides, isOverrides,
      same⟩
    cases same
    exact ⟨isWorld, isBodies, isDiagnostics, isOverrides⟩
  · rintro ⟨isWorld, isBodies, isDiagnostics, isOverrides⟩
    exact ⟨_, isWorld, _, isBodies, _, isDiagnostics, _, isOverrides, rfl⟩

/-- The names of the parts, in the order of the array form. -/
def partNames : List String :=
  ["world", "bodies", "errors", "shapeOverrides"]

/-- The kinds that the parts of a scene must have. -/
structure Acceptable (parts : List (String × Json)) : Prop where
  world : Json.Optional WorldExtent.IsExtent (parts.lookup "world")
  bodies : Json.Optional Json.IsArray (parts.lookup "bodies")
  diagnostics : Json.Optional Json.IsArray (parts.lookup "errors")
  overrides : Json.Optional Json.IsObject (parts.lookup "shapeOverrides")

/-- What the lists and the table of a scene hold, element by element and name by name. -/
structure Holds (scene : Scene) (parts : List (String × Json)) : Prop where
  bodies : scene.bodies = (Json.elements? (parts.lookup "bodies")).map (·.map SceneEntry.ofJson)
  diagnostics : scene.diagnostics =
    (Json.elements? (parts.lookup "errors")).map (·.map Diagnostic.mk)
  overrides : Option.Rel Overrides.IsTableOf (Json.members? (parts.lookup "shapeOverrides"))
    scene.overrides

theorem members_lookup_isCanonical {value : Json} (canonical : value.IsCanonical)
    {names : List String} {parts : List (String × Json)}
    (isParts : Json.Members names value parts) {name : String} {part : Json}
    (found : parts.lookup name = some part) : part.IsCanonical := by
  rcases isParts with _ | short
  · exact canonical.member found
  · exact canonical.element (List.of_mem_zip (Json.mem_of_lookup found)).2

theorem acceptable_iff {parts : List (String × Json)}
    (canonical : ∀ name part, parts.lookup name = some part → part.IsCanonical) :
    Acceptable parts ↔
      (WorldExtent.decoder.part? (parts.lookup "world")).isSome ∧
      ((Decoder.list entryDecoder).part? (parts.lookup "bodies")).isSome ∧
      ((Decoder.list diagnosticDecoder).part? (parts.lookup "errors")).isSome ∧
      (Overrides.decoder.part? (parts.lookup "shapeOverrides")).isSome := by
  rw [Decoder.isSome_part? fun value found =>
    WorldExtent.isSome_ofJson? (canonical "world" value found).uniqueKeys]
  rw [Decoder.isSome_part? fun value _ => Decoder.isSome_list (fun _ => rfl) value]
  rw [Decoder.isSome_part? fun value _ => Decoder.isSome_list (fun _ => rfl) value]
  rw [Decoder.isSome_part? fun value _ => Overrides.isSome_ofJson? value]
  constructor
  · rintro ⟨world, bodies, diagnostics, overrides⟩
    exact ⟨world, bodies, diagnostics, overrides⟩
  · rintro ⟨world, bodies, diagnostics, overrides⟩
    exact ⟨world, bodies, diagnostics, overrides⟩

theorem holds_of_applyParts? {parts : List (String × Json)}
    (canonical : ∀ name part, parts.lookup name = some part → part.IsCanonical) {scene : Scene}
    (applied : Decoder.applyParts? (parts.lookup ·) record.fields record.draft = some scene) :
    Holds scene parts := by
  rcases (applyParts?_eq_some_iff _ scene).1 applied with ⟨-, bodies, diagnostics, overrides⟩
  rcases scene with ⟨_, _, found, table⟩
  constructor
  · exact Decoder.part?_list (fun _ => rfl) bodies
  · have decoded : found = (Json.elements? (parts.lookup "errors")).map
        (·.map fun value => ⟨value.canonical⟩) := Decoder.part?_list (fun _ => rfl) diagnostics
    simp only [decoded]
    rcases part : parts.lookup "errors" with _ | value
    · rfl
    · cases value with
      | array elements =>
          have unchanged : ∀ element ∈ elements, element.canonical = element :=
            fun element => (canonical _ _ part).element
          simp only [Json.elements?, Option.map_some, Option.some.injEq]
          apply List.map_congr_left
          intro element member
          rw [unchanged element member]
      | _ => rfl
  · rcases part : parts.lookup "shapeOverrides" with _ | value
    · rw [part] at overrides
      cases overrides
      exact .none
    · rw [part] at overrides
      cases value with
      | null =>
          cases overrides
          exact .none
      | object members =>
          cases overrides
          exact .some (Overrides.isTableOf_ofDictionary (canonical _ _ part))
      | _ => cases overrides

theorem ofJson?_eq_some_iff {value : Json} (canonical : value.IsCanonical) (scene : Scene) :
    decoder.ofJson? value = some scene ↔ ∃ parts, Json.Members partNames value parts ∧
      Decoder.applyParts? (parts.lookup ·) record.fields record.draft = some scene :=
  Decoder.ofJson?_ofDraft_eq_some_iff independent canonical.uniqueKeys

theorem exists_holds {value : Json} (canonical : value.IsCanonical) {scene : Scene}
    (decoded : decoder.ofJson? value = some scene) :
    ∃ parts, Json.Members partNames value parts ∧ Holds scene parts := by
  rcases (ofJson?_eq_some_iff canonical scene).1 decoded with ⟨parts, isParts, applied⟩
  refine ⟨parts, isParts, ?_⟩
  exact holds_of_applyParts? (fun _ _ => members_lookup_isCanonical canonical isParts) applied

/-- A generic value stands for a scene if and only if its parts have the right kinds. Then each
element of a list is decoded for itself and each template is found under its own name. -/
theorem decodes_iff_acceptable (value : Json) (canonical : value.IsCanonical) :
    ((decoder.ofJson? value).isSome ↔ ∃ parts, Json.Members partNames value parts ∧
      Acceptable parts) ∧
    ∀ scene, decoder.ofJson? value = some scene → ∃ parts, Json.Members partNames value parts ∧
      Holds scene parts := by
  constructor
  · rw [Option.isSome_iff_exists]
    constructor
    · rintro ⟨scene, decoded⟩
      rcases (ofJson?_eq_some_iff canonical scene).1 decoded with ⟨parts, isParts, applied⟩
      refine ⟨parts, isParts, ?_⟩
      rw [acceptable_iff fun _ _ => members_lookup_isCanonical canonical isParts]
      rcases (applyParts?_eq_some_iff _ scene).1 applied with
        ⟨world, bodies, diagnostics, overrides⟩
      simp [world, bodies, diagnostics, overrides]
    · rintro ⟨parts, isParts, acceptable⟩
      rw [acceptable_iff fun _ _ => members_lookup_isCanonical canonical isParts] at acceptable
      simp only [Option.isSome_iff_exists] at acceptable
      rcases acceptable with
        ⟨⟨world, isWorld⟩, ⟨bodies, isBodies⟩, ⟨diagnostics, isDiagnostics⟩, overrides, isOverrides⟩
      refine ⟨⟨world, bodies, diagnostics, overrides⟩, ?_⟩
      apply (ofJson?_eq_some_iff canonical _).2
      refine ⟨parts, isParts, ?_⟩
      apply (applyParts?_eq_some_iff _ _).2
      exact ⟨isWorld, isBodies, isDiagnostics, isOverrides⟩
  · intro scene decoded
    exact exists_holds canonical decoded

/-- A scene with entries that are no bodies and with a table of which one member is no template. -/
def mixed : Json :=
  .object [("bodies", .array [.boolean true, .object [("shape", .text "circle")]]),
    ("errors", .array [.null]),
    ("shapeOverrides", .object [("ball", .object [("base", .text "circle")]), ("box", .null)])]

theorem decodes_mixed : mixed.IsCanonical ∧
    ∃ scene parts, decoder.ofJson? mixed = some scene ∧ Json.Members partNames mixed parts ∧
      Acceptable parts ∧ Holds scene parts := by
  have canonical : mixed.IsCanonical := by rfl
  rcases decodes_iff_acceptable mixed canonical with ⟨accepts, describes⟩
  have decoded : (decoder.ofJson? mixed).isSome := by rfl
  rcases accepts.1 decoded with ⟨parts, isParts, acceptable⟩
  rcases Option.isSome_iff_exists.1 decoded with ⟨scene, isScene⟩
  rcases describes scene isScene with ⟨others, isOthers, holds⟩
  cases isParts
  cases isOthers
  exact ⟨canonical, scene, _, isScene, .object _, acceptable, holds⟩

end Scene

end PhysicsScene
