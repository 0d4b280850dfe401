import Mathlib.Data.List.Induction
import PhysicsScene.Dictionary.Lemmas
import PhysicsScene.Shape.Registry

/-!
# Registrations and the fallback

A registry answers with the factory that was registered last under a name, and with the one that was
registered last under `unknown` for a name that it does not know. A template does not ask the
registry: without a built-in base it is the built-in `unknown` for good. So the two fallbacks build
alike as long as nothing else was registered under `unknown`, or something that makes the same of the
options (`Registry.template_fallback_iff`).
-/

namespace PhysicsScene

/-- Two bodies have the same shape and the same properties. -/
def Body.LooksLike (body other : Body) : Prop :=
  body.geometry = other.geometry ∧ body.properties = other.properties

/-- A body is the circle that options describe. -/
def Body.IsCircleOf (body : Body) (options : BodyOptions) : Prop :=
  body.geometry = .circle options.circleRadius ∧ body.properties = options.properties

theorem Body.IsCircleOf.looksLike_iff {body other : Body} {options : BodyOptions}
    (isCircle : body.IsCircleOf options) : body.LooksLike other ↔ other.IsCircleOf options := by
  rcases isCircle with ⟨geometry, properties⟩
  simp [LooksLike, IsCircleOf, geometry, properties, eq_comm]

namespace Registry

/-- The registry after some registrations, one after the other. -/
def registerAll (registry : Registry) (registrations : List (String × Factory)) : Registry :=
  registrations.foldl (fun registry entry => registry.register entry.1 entry.2) registry

/-- The factory that was registered last under a name. -/
def lastUnder? (name : String) (registrations : List (String × Factory)) : Option Factory :=
  registrations.reverse.lookup name

/-- After registrations the last one under a name counts, and else what was there before. -/
theorem find?_registerAll (registry : Registry) (registrations : List (String × Factory))
    (name : String) :
    (registry.registerAll registrations).factories.find? name =
      (lastUnder? name registrations <|> registry.factories.find? name) := by
  induction registrations using List.reverseRecOn with
  | nil => rfl
  | append_singleton earlier entry ih =>
      rcases entry with ⟨key, factory⟩
      have step : registry.registerAll (earlier ++ [(key, factory)]) =
          (registry.registerAll earlier).register key factory := by
        simp [registerAll]
      simp only [step, register, Dictionary.find?_insert, ih, lastUnder?, List.reverse_concat,
        Dictionary.lookup_cons_ite]
      split
      · rfl
      · rfl

/-- A name that nothing explains is left to the factory under `unknown`. -/
theorem resolve_of_unresolved {registry : Registry} {overrides : Option Overrides} {name : String}
    (absent : overrides.bind (·.find? name) = none) (unregistered : registry.contains name = false) :
    registry.resolve overrides name =
      (registry.factories.find? StandardShape.unknown.name).getD (.standard .unknown) := by
  have missing : registry.factories.find? name = none := by
    simpa [contains, Dictionary.contains] using unregistered
  simp [resolve, absent, missing]

theorem resolve_registerAll_of_unresolved {registrations : List (String × Factory)}
    {overrides : Option Overrides} {name : String} (absent : overrides.bind (·.find? name) = none)
    (unregistered : (standard.registerAll registrations).contains name = false) :
    (standard.registerAll registrations).resolve overrides name =
      (lastUnder? StandardShape.unknown.name registrations).getD (.standard .unknown) := by
  have builtIn : standard.factories.find? StandardShape.unknown.name =
      some (.standard .unknown) := rfl
  rw [resolve_of_unresolved absent unregistered, find?_registerAll, builtIn]
  cases lastUnder? StandardShape.unknown.name registrations <;> rfl

end Registry

section Unknown

variable (options : BodyOptions) (position : Vector2) (index : Int) (next : UInt64)

theorem Factory.isCircleOf_unknown :
    ((Factory.standard .unknown).build options position index next).1.IsCircleOf options :=
  ⟨rfl, rfl⟩

/-- A template without a built-in base makes a circle of the options that it completes. -/
theorem Template.isCircleOf_build {template : Template}
    (baseless : template.base.bind StandardShape.ofName? = none) :
    ((Factory.template template).build options position index next).1.IsCircleOf
      (options.overlay template.defaults) := by
  have unknown : template.shape = .unknown := by simp [shape, baseless]
  simp only [Factory.build, place, unknown]
  exact Factory.isCircleOf_unknown _ position index next

end Unknown

namespace Registry

/-- After any registrations a template without a built-in base builds the circle of the completed
options. A name that nothing explains is built alike from these options exactly if the factory that
was registered last under `unknown`, if any, makes this circle too. -/
theorem template_fallback_iff (registrations : List (String × Factory)) {template : Template}
    (baseless : template.base.bind StandardShape.ofName? = none) {table : Overrides} {shape : String}
    (overridden : table.find? shape = some (.template template)) {overrides : Option Overrides}
    {name : String} (absent : overrides.bind (·.find? name) = none)
    (unregistered : (standard.registerAll registrations).contains name = false)
    (options : BodyOptions) (position : Vector2) (index : Int) (next later : UInt64) :
    let registry := standard.registerAll registrations
    let completed := options.overlay template.defaults
    let body := ((registry.resolve (some table) shape).build options position index next).1
    let fallback := ((registry.resolve overrides name).build completed position index later).1
    body.IsCircleOf completed ∧
      (body.LooksLike fallback ↔ ∀ factory ∈ lastUnder? StandardShape.unknown.name registrations,
        (factory.build completed position index later).1.IsCircleOf completed) := by
  intro registry completed body fallback
  have isTemplate : registry.resolve (some table) shape = .template template := by
    simp [resolve, overridden]
  have isCircle : body.IsCircleOf completed := by
    unfold body
    rw [isTemplate]
    exact template.isCircleOf_build options position index next baseless
  refine ⟨isCircle, isCircle.looksLike_iff.trans ?_⟩
  unfold fallback
  rw [resolve_registerAll_of_unresolved absent unregistered]
  cases lastUnder? StandardShape.unknown.name registrations with
  | none => simp [Factory.isCircleOf_unknown completed position index later]
  | some factory => simp

/-- A rectangle under `unknown` is registered over by a template of a circle that adds nothing. -/
theorem template_fallback_iff_again :
    let registrations := [("unknown", .standard .rectangle), ("peg", .standard .rectangle),
      ("unknown", .template (.new .circle .none))]
    let template : Template := ⟨some "Unknown", { BodyOptions.none with width := some 30 }⟩
    let table : Overrides := Dictionary.empty.insert "circle" (.template template)
    let options := { BodyOptions.none with radius := some 5, height := some 4 }
    let registry := standard.registerAll registrations
    registry.contains "blob" = false ∧
      ((registry.resolve (some table) "circle").build options .zero (-1) 1).1.LooksLike
        ((registry.resolve (some table) "blob").build (options.overlay template.defaults)
          .zero (-1) 2).1 := by
  intro registrations template table options registry
  have baseless : template.base.bind StandardShape.ofName? = none := by decide
  have overridden : table.find? "circle" = some (.template template) := rfl
  have absent : (some table).bind (·.find? "blob") = none := rfl
  have unregistered : registry.contains "blob" = false := by decide +kernel
  have alike := (template_fallback_iff registrations baseless overridden absent unregistered options
    .zero (-1) 1 2).2
  refine ⟨unregistered, alike.2 ?_⟩
  rintro factory ⟨⟩
  exact ⟨by decide +kernel, rfl⟩

/-- With a rectangle registered under `unknown`, a template without a base stays a circle. -/
theorem not_template_fallback : ¬∀ (registrations : List (String × Factory)) (template : Template)
    (table : Overrides) (shape name : String),
    (∀ base ∈ template.base, (standard.registerAll registrations).contains base = false) →
      table.find? shape = some (.template template) →
      (standard.registerAll registrations).contains name = false →
      ∀ options position index next,
        (((standard.registerAll registrations).resolve (some table) shape).build options position
          index next).1.LooksLike
        (((standard.registerAll registrations).resolve none name).build
          (options.overlay template.defaults) position index next).1 := by
  intro alike
  have same := alike [("unknown", .standard .rectangle)] ⟨none, .none⟩
    (Dictionary.empty.insert "ball" (.template ⟨none, .none⟩)) "ball" "blob" (by simp) rfl
    (by decide +kernel) .none .zero (-1) 1
  exact absurd same.1 (by decide +kernel)

end Registry

end PhysicsScene
