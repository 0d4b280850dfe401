import PhysicsScene.Shape.Template

/-!
# Factories and the registry

A factory turns options and a place into a body. The registry holds the factories of a stage by
name, and a scene may bring overrides of its own. `Registry.resolve` never fails: an override wins
over a registered factory, and a name that neither knows is built by the factory registered under
`unknown`.
-/

namespace PhysicsScene

/-- A way of making bodies from options, a position and the place in a batch. -/
inductive Factory where
  | standard (shape : StandardShape)
  | template (template : Template)
  /-- A rule of the host; it may make a body without identity. -/
  | custom (construct : BodyOptions → Vector2 → (index : Int) → Builder Body)

namespace Factory

/-- Makes a body. -/
def build (factory : Factory) (options : BodyOptions) (position : Vector2) (index : Int) :
    Builder Body :=
  match factory with
  | .standard shape => shape.place options position
  | .template pattern => pattern.place options position
  | .custom rule => rule options position index

end Factory

/-- The factories that a scene brings. -/
abbrev Overrides := Dictionary Factory

namespace Overrides

/-- The templates among the members of an object; a member that is no template is left out. -/
def ofDictionary (members : Dictionary Json) : Overrides :=
  members.filterMap fun value => (Template.decoder.ofJson? value).map Factory.template

/-- An object of templates. -/
def decoder : Decoder Overrides :=
  Decoder.dictionary.map ofDictionary

end Overrides

/-- The factories of a stage. -/
structure Registry where
  factories : Dictionary Factory

namespace Registry

/-- Adds or replaces a factory. -/
def register (registry : Registry) (name : String) (factory : Factory) : Registry :=
  ⟨registry.factories.insert name factory⟩

/-- The registry of the built-in shapes. -/
def standard : Registry :=
  StandardShape.all.foldl (fun registry shape => registry.register shape.name (.standard shape))
    ⟨.empty⟩

/-- Whether a name is registered. -/
def contains (registry : Registry) (name : String) : Bool :=
  registry.factories.contains name

/-- The factory that builds shapes of a name. -/
def resolve (registry : Registry) (overrides : Option Overrides) (name : String) : Factory :=
  (overrides.bind (·.find? name)
    <|> registry.factories.find? name
    <|> registry.factories.find? StandardShape.unknown.name).getD (.standard .unknown)

end Registry

end PhysicsScene
