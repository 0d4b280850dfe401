import PhysicsScene.Proofs.Shape.Plain
import PhysicsScene.Proofs.Shape.Registration

/-!
# Resolution and its histories

The built-in shapes are the first registrations of every registry, so what a name means is decided
by two lists alone: what a table of overrides was made of, and what was registered. A name is looked
up in the first and then in the second, and for a name in neither the second is asked once more,
under `unknown` (`Registry.resolveAfter_eq`). An addition to a list counts for its own name only,
and for the names that are left to `unknown` if that is its name.
-/

namespace PhysicsScene

namespace Registry

/-- The registrations that every registry begins with. -/
def builtIns : List (String × Factory) :=
  StandardShape.all.map fun shape => (shape.name, .standard shape)

/-- What a name resolves to after registrations, with a table made of entries or without a table. -/
def resolveAfter (registrations : List (String × Factory))
    (inserted : Option (List (String × Factory))) (name : String) : Factory :=
  (standard.registerAll registrations).resolve (inserted.map Dictionary.ofList) name

/-- The factory that the table or the registry has for a name itself. -/
def explained? (registrations : List (String × Factory))
    (inserted : Option (List (String × Factory))) (name : String) : Option Factory :=
  inserted.bind (lastUnder? name) <|> lastUnder? name (builtIns ++ registrations)

section History

variable (earlier later registrations : List (String × Factory))
  (inserted : Option (List (String × Factory))) (name : String)

theorem lastUnder?_append :
    lastUnder? name (earlier ++ later) = (lastUnder? name later <|> lastUnder? name earlier) := by
  simp [lastUnder?, List.lookup_append]

/-- An entry under another name changes nothing, wherever it stands. -/
theorem lastUnder?_insert {other : String} (different : other ≠ name) (factory : Factory) :
    lastUnder? name (earlier ++ (other, factory) :: later) =
      lastUnder? name (earlier ++ later) := by
  have alone : lastUnder? name [(other, factory)] = none := by
    simp [lastUnder?, Dictionary.lookup_cons_ite, different.symm]
  have isAppend : earlier ++ (other, factory) :: later =
      earlier ++ ([(other, factory)] ++ later) := rfl
  simp only [isAppend, lastUnder?_append, alone, Option.orElse_eq_orElse, Option.orElse_eq_or,
    Option.or_none]

/-- A table answers with the last of the entries that it is made of. -/
theorem find?_ofList : (Dictionary.ofList registrations).find? name =
    lastUnder? name registrations := by
  induction registrations using List.reverseRecOn with
  | nil => rfl
  | append_singleton rest entry ih =>
      rcases entry with ⟨key, factory⟩
      have step : Dictionary.ofList (rest ++ [(key, factory)]) =
          (Dictionary.ofList rest).insert key factory := by
        simp [Dictionary.ofList]
      simp only [step, Dictionary.find?_insert, ih, lastUnder?, List.reverse_concat,
        Dictionary.lookup_cons_ite]

/-- The registry has the built-in shapes as if they had been registered first. -/
theorem find?_standard_registerAll :
    (standard.registerAll registrations).factories.find? name =
      lastUnder? name (builtIns ++ registrations) := by
  have begins : standard.factories = Dictionary.ofList builtIns := rfl
  rw [find?_registerAll, begins, find?_ofList, lastUnder?_append]

/-- There is always something under `unknown`. -/
theorem exists_lastUnder?_unknown :
    ∃ factory, lastUnder? "unknown" (builtIns ++ registrations) = some factory := by
  have builtIn : lastUnder? "unknown" builtIns = some (.standard .unknown) := rfl
  rw [lastUnder?_append, builtIn]
  cases lastUnder? "unknown" registrations with
  | none => exact ⟨_, rfl⟩
  | some factory => exact ⟨_, rfl⟩

/-- A table is asked for the last of its entries under a name. -/
theorem bind_find?_ofList : (inserted.map Dictionary.ofList).bind (·.find? name) =
    inserted.bind (lastUnder? name) := by
  cases inserted with
  | none => rfl
  | some entries => exact find?_ofList entries name

/-- The two lists decide alone: no name is left without a factory after the look-up under
`unknown`. -/
theorem resolveAfter_eq :
    some (resolveAfter registrations inserted name) =
      (explained? registrations inserted name <|>
        lastUnder? "unknown" (builtIns ++ registrations)) := by
  have unknown : StandardShape.unknown.name = "unknown" := rfl
  rcases exists_lastUnder?_unknown registrations with ⟨fallback, isFallback⟩
  rw [resolveAfter, resolve, bind_find?_ofList, unknown, find?_standard_registerAll,
    find?_standard_registerAll, explained?, isFallback]
  cases inserted.bind (lastUnder? name) with
  | some factory => rfl
  | none =>
      cases lastUnder? name (builtIns ++ registrations) with
      | some factory => rfl
      | none => rfl

/-- Lists that explain a name alike resolve it alike, if it is explained or they have the same
factory under `unknown`. -/
theorem resolveAfter_congr {others : List (String × Factory)}
    {otherInserted : Option (List (String × Factory))}
    (same : explained? others otherInserted name = explained? registrations inserted name)
    (fallback : explained? registrations inserted name = none →
      lastUnder? "unknown" (builtIns ++ others) =
        lastUnder? "unknown" (builtIns ++ registrations)) :
    resolveAfter others otherInserted name = resolveAfter registrations inserted name := by
  apply Option.some.inj
  rw [resolveAfter_eq, resolveAfter_eq, same]
  cases explained : explained? registrations inserted name with
  | some factory => rfl
  | none => rw [fallback explained]

/-- The built-in `unknown` makes the same of everything as the built-in circle. -/
theorem build_unknown : (Factory.standard .unknown).build = (Factory.standard .circle).build :=
  rfl

end History

/-- What a name resolves to after registrations, and with a table made of entries. -/
structure FollowsHistory (registrations : List (String × Factory))
    (inserted : Option (List (String × Factory))) (name : String) : Prop where
  /-- The last entry of the table under the name counts, without one the last registration under it,
  and without that the last registration under `unknown`, which always exists. -/
  resolve_eq : some (resolveAfter registrations inserted name) =
    (inserted.bind (lastUnder? name) <|> lastUnder? name (builtIns ++ registrations) <|>
      lastUnder? "unknown" (builtIns ++ registrations))
  /-- A first entry of a table changes nothing if it stands under another name. -/
  first : inserted = none → ∀ other factory, other ≠ name →
    resolveAfter registrations (some [(other, factory)]) name =
      resolveAfter registrations inserted name
  /-- Nor does an entry that is put anywhere between those that there are, be it under `unknown`. -/
  insert : ∀ earlier later, inserted = some (earlier ++ later) → ∀ other factory, other ≠ name →
    resolveAfter registrations (some (earlier ++ (other, factory) :: later)) name =
      resolveAfter registrations inserted name
  /-- Nor does a registration under another name, unless that is `unknown` and the name is found
  neither in the table nor in the registry. -/
  register : ∀ earlier later, registrations = earlier ++ later → ∀ other factory, other ≠ name →
    (other = "unknown" → explained? registrations inserted name ≠ none) →
      resolveAfter (earlier ++ (other, factory) :: later) inserted name =
        resolveAfter registrations inserted name
  /-- With nothing registered under `unknown`, a name that is found nowhere builds what the built-in
  circle builds, whatever the table has under `circle`. -/
  build_eq : lastUnder? "unknown" registrations = none →
    explained? registrations inserted name = none → ∀ options position index next,
      (resolveAfter registrations inserted name).build options position index next =
        (Factory.standard .circle).build options position index next

/-- Resolution follows the histories of the registry and of the table of overrides. -/
theorem resolve_followsHistory (registrations : List (String × Factory))
    (inserted : Option (List (String × Factory))) (name : String) :
    FollowsHistory registrations inserted name := by
  refine ⟨?_, ?_, ?_, ?_, ?_⟩
  · rw [resolveAfter_eq, explained?]
    cases inserted.bind (lastUnder? name) with
    | none => rfl
    | some factory => rfl
  · rintro rfl other factory different
    have skipped : lastUnder? name [(other, factory)] = lastUnder? name [] :=
      lastUnder?_insert [] [] name different factory
    refine resolveAfter_congr registrations none name ?_ fun _ => rfl
    rw [explained?, Option.bind_some, skipped]
    rfl
  · rintro earlier later rfl other factory different
    refine resolveAfter_congr registrations _ name ?_ fun _ => rfl
    rw [explained?, explained?, Option.bind_some, Option.bind_some,
      lastUnder?_insert earlier later name different]
  · rintro earlier later rfl other factory different found
    have skipped {wanted : String} (notOther : other ≠ wanted) :
        lastUnder? wanted (builtIns ++ (earlier ++ (other, factory) :: later)) =
          lastUnder? wanted (builtIns ++ (earlier ++ later)) := by
      simpa using lastUnder?_insert (builtIns ++ earlier) later wanted notOther factory
    refine resolveAfter_congr _ inserted name ?_ ?_
    · rw [explained?, explained?, skipped different]
    · intro unexplained
      exact skipped fun isUnknown => found isUnknown unexplained
  · intro unregistered unexplained options position index next
    have isUnknown : resolveAfter registrations inserted name = .standard .unknown := by
      apply Option.some.inj
      rw [resolveAfter_eq, unexplained, lastUnder?_append, unregistered]
      rfl
    rw [isUnknown, build_unknown]

/-- A scene that makes rectangles of circles and of what is unknown leaves other names alone. -/
theorem resolve_followsHistory_shadowed :
    let registrations := [("peg", .standard .rectangle), ("circle", .standard .rectangle)]
    let inserted := [("circle", .template (.new .rectangle .none)),
      ("unknown", .standard .rectangle)]
    explained? registrations (some inserted) "blob" = none ∧
      ∀ options position index next,
        (resolveAfter registrations (some inserted) "blob").build options position index next =
          (Factory.standard .circle).build options position index next := by
  intro registrations inserted
  have unexplained : explained? registrations (some inserted) "blob" = none := rfl
  exact ⟨unexplained, (resolve_followsHistory registrations (some inserted) "blob").build_eq rfl
    unexplained⟩

end Registry

end PhysicsScene
