import PhysicsScene.Dictionary.Lemmas
import PhysicsScene.Playfield

/-!
# Plain factories

A rule of the host may do anything with a builder. A built-in shape or a template does little: it
takes one identity, and everything else about its body follows from the options and the place.
`Factory.form` is that body before it gets an identity. Factories that come from a text are always
plain, and a registry or a table of overrides that holds only plain factories resolves every name
to a plain one.
-/

namespace PhysicsScene

namespace Body

/-- The same body under an identity. -/
def withId (body : Body) (number : UInt64) : Body :=
  { body with id := some ⟨number⟩ }

end Body

namespace Factory

/-- The factory is a built-in shape or a template. -/
inductive IsPlain : Factory → Prop
  | standard (shape : StandardShape) : IsPlain (.standard shape)
  | template (pattern : Template) : IsPlain (.template pattern)

/-- The body that a factory makes of options at a place, for any identity. -/
def form (factory : Factory) (options : BodyOptions) (position : Vector2) : Body :=
  (factory.build options position unbatched 0).1

variable {factory : Factory}

/-- A plain factory takes one identity and uses it for nothing but the body's own. -/
theorem IsPlain.build_eq (plain : factory.IsPlain) (options : BodyOptions) (position : Vector2)
    (index : Int) (next : UInt64) :
    factory.build options position index next =
      ((factory.form options position).withId next, next + 1) := by
  cases plain with
  | standard shape => rfl
  | template pattern => rfl

theorem IsPlain.form_position (plain : factory.IsPlain) (options : BodyOptions)
    (position : Vector2) : (factory.form options position).position = position := by
  cases plain with
  | standard shape => rfl
  | template pattern => rfl

/-- A new body of a plain factory is at rest. -/
theorem IsPlain.form_velocity (plain : factory.IsPlain) (options : BodyOptions)
    (position : Vector2) : (factory.form options position).velocity = .zero := by
  cases plain with
  | standard shape => rfl
  | template pattern => rfl

/-- All factories of a table are plain. -/
def ArePlain (factories : Dictionary Factory) : Prop :=
  ∀ name factory, factories.find? name = some factory → factory.IsPlain

theorem ArePlain.insert {factories : Dictionary Factory} (plain : ArePlain factories)
    (name : String) (isPlain : factory.IsPlain) : ArePlain (factories.insert name factory) := by
  intro other found lookup
  rw [Dictionary.find?_insert] at lookup
  split at lookup
  · cases lookup
    exact isPlain
  · exact plain other found lookup

end Factory

namespace Overrides

/-- Whatever an object holds, the overrides that come of it are templates. -/
theorem arePlain_ofDictionary (members : Dictionary Json) :
    Factory.ArePlain (ofDictionary members) := by
  intro name factory found
  rw [ofDictionary, Dictionary.find?_filterMap] at found
  rcases Option.bind_eq_some_iff.1 found with ⟨value, _, decoded⟩
  rcases Option.map_eq_some_iff.1 decoded with ⟨pattern, _, rfl⟩
  exact .template pattern

end Overrides

namespace Registry

theorem arePlain_standard : Factory.ArePlain standard.factories := by
  have none : Factory.ArePlain (.empty : Dictionary Factory) := by
    intro name factory found
    cases found
  exact ((none.insert _ (.standard .circle)).insert _ (.standard .rectangle)).insert _
    (.standard .unknown)

/-- The overrides of a scene come before everything that is registered. -/
theorem resolve_eq (registry : Registry) (overrides : Option Overrides) (name : String) :
    registry.resolve overrides name =
      (overrides.bind (·.find? name)).getD (registry.resolve none name) := by
  cases found : overrides.bind (·.find? name) <;> simp [resolve, found]

theorem isPlain_resolve_none {registry : Registry} (plain : Factory.ArePlain registry.factories)
    (name : String) : (registry.resolve none name).IsPlain := by
  cases registered : registry.factories.find? name with
  | some factory =>
      have resolved : registry.resolve none name = factory := by simp [resolve, registered]
      rw [resolved]
      exact plain name factory registered
  | none =>
      cases fallback : registry.factories.find? StandardShape.unknown.name with
      | some factory =>
          have resolved : registry.resolve none name = factory := by
            simp [resolve, registered, fallback]
          rw [resolved]
          exact plain _ factory fallback
      | none =>
          have resolved : registry.resolve none name = .standard .unknown := by
            simp [resolve, registered, fallback]
          rw [resolved]
          exact .standard .unknown

theorem isPlain_resolve {registry : Registry} {overrides : Option Overrides}
    (plain : ∀ name, (registry.resolve none name).IsPlain)
    (overridden : ∀ table ∈ overrides, Factory.ArePlain table) (name : String) :
    (registry.resolve overrides name).IsPlain := by
  rw [resolve_eq]
  cases found : overrides.bind (·.find? name) with
  | none => exact plain name
  | some factory =>
      rcases Option.bind_eq_some_iff.1 found with ⟨table, isTable, inTable⟩
      exact overridden table isTable name factory inTable

end Registry

end PhysicsScene
