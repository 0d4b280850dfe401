import PhysicsScene.Shape.Registry

/-!
# Sizes under a template

An overlay takes every size from the body if the body gives it, and from the template otherwise. A
circle has two ways to be sized, by a width or by a radius, and a width counts first. So the size of
a body is not taken as a whole: a radius of its own yields to a width of the template
(`Template.radius_eq_own_iff`).
-/

namespace PhysicsScene

namespace BodyOptions

theorem given_orElse_given (own defaults : Option Float32) :
    given (given own <|> given defaults) = (given own <|> given defaults) := by
  cases isOwn : given own with
  | some size =>
      have isGiven := (Option.filter_eq_some_iff.1 isOwn).2
      simp [given, isGiven]
  | none => simp [given, Option.filter_filter]

@[simp]
theorem givenRadius_overlay (own defaults : BodyOptions) :
    (own.overlay defaults).givenRadius = (own.givenRadius <|> defaults.givenRadius) :=
  given_orElse_given own.radius defaults.radius

@[simp]
theorem givenWidth_overlay (own defaults : BodyOptions) :
    (own.overlay defaults).givenWidth = (own.givenWidth <|> defaults.givenWidth) :=
  given_orElse_given own.width defaults.width

@[simp]
theorem givenHeight_overlay (own defaults : BodyOptions) :
    (own.overlay defaults).givenHeight = (own.givenHeight <|> defaults.givenHeight) :=
  given_orElse_given own.height defaults.height

/-- The options give a circle its size, in one of the two ways. -/
def SizesCircle (options : BodyOptions) : Prop :=
  options.givenRadius ≠ .none ∨ options.givenWidth ≠ .none

section Circle

variable {own : BodyOptions} (defaults : BodyOptions)

theorem circleRadius_overlay_of_width {width : Float32} (isWidth : own.givenWidth = some width) :
    (own.overlay defaults).circleRadius = own.circleRadius := by
  simp [circleRadius, isWidth]

/-- Without a width of its own a body has a radius of its own only if no other width comes first. -/
theorem circleRadius_overlay_of_radius (noWidth : own.givenWidth = .none) {radius : Float32}
    (isRadius : own.givenRadius = some radius) :
    (own.overlay defaults).circleRadius = (defaults.givenWidth.map (· / 2)).getD radius := by
  simp [circleRadius, noWidth, isRadius]

theorem circleRadius_overlay_of_not_sizesCircle (unsized : ¬own.SizesCircle) :
    (own.overlay defaults).circleRadius = defaults.circleRadius := by
  obtain ⟨noRadius, noWidth⟩ : own.givenRadius = .none ∧ own.givenWidth = .none := by
    simpa [SizesCircle] using unsized
  simp [circleRadius, noRadius, noWidth]

/-- A body that sizes its circle keeps the size exactly if it gives the width, or if no width comes
from the defaults but one that is twice the radius. -/
theorem circleRadius_overlay_eq_iff (sized : own.SizesCircle) :
    (own.overlay defaults).circleRadius = own.circleRadius ↔
      own.givenWidth ≠ .none ∨
        ∀ width ∈ defaults.givenWidth, own.givenRadius = some (width / 2) := by
  cases isWidth : own.givenWidth with
  | some width => simp [circleRadius_overlay_of_width defaults isWidth]
  | none =>
      obtain ⟨radius, isRadius⟩ : ∃ radius, own.givenRadius = some radius := by
        apply Option.ne_none_iff_exists'.1
        simpa [SizesCircle, isWidth] using sized
      have ownRadius : own.circleRadius = radius := by simp [circleRadius, isWidth, isRadius]
      rw [circleRadius_overlay_of_radius defaults isWidth isRadius, ownRadius, isRadius]
      cases defaults.givenWidth with
      | none => simp
      | some width => simp [eq_comm]

end Circle

end BodyOptions

namespace Template

variable {template : Template}

theorem geometry_build_of_ne_rectangle (round : template.shape ≠ .rectangle) (options : BodyOptions)
    (position : Vector2) (index : Int) (next : UInt64) :
    ((Factory.template template).build options position index next).1.geometry =
      .circle (options.overlay template.defaults).circleRadius := by
  have isCircle : template.shape.geometry (options.overlay template.defaults) =
      .circle (options.overlay template.defaults).circleRadius := by
    cases base : template.shape with
    | circle => rfl
    | unknown => rfl
    | rectangle => exact absurd base round
  exact isCircle

/-- A body that gives a size is built with it exactly if it gives the width or the template gives no
other width; the sizes of the template decide for a body that gives none. -/
theorem radius_eq_own_iff (round : template.shape ≠ .rectangle) (options : BodyOptions)
    (position : Vector2) (index : Int) (next : UInt64) :
    ∃ radius, ((Factory.template template).build options position index next).1.geometry =
        .circle radius ∧
      (options.SizesCircle → (radius = options.circleRadius ↔ options.givenWidth ≠ none ∨
        ∀ width ∈ template.defaults.givenWidth, options.givenRadius = some (width / 2))) ∧
      (¬options.SizesCircle → radius = template.defaults.circleRadius) :=
  ⟨_, geometry_build_of_ne_rectangle round options position index next,
    BodyOptions.circleRadius_overlay_eq_iff template.defaults,
    BodyOptions.circleRadius_overlay_of_not_sizesCircle template.defaults⟩

/-- Two sizes that count as not given, on either side, under a base that nothing explains. -/
theorem radius_eq_own_iff_peg :
    let peg : Template := ⟨some "Circle", ⟨some 40, some (-0), none, .empty⟩⟩
    let options : BodyOptions := ⟨some 5, some (0 / 0), some 9, .empty⟩
    peg.shape ≠ .rectangle ∧ options.SizesCircle ∧
      ((Factory.template peg).build options .zero (-1) 1).1.geometry =
        .circle options.circleRadius := by
  intro peg options
  have round : peg.shape ≠ .rectangle := by decide +kernel
  have sized : options.SizesCircle := .inl (by decide +kernel)
  rcases radius_eq_own_iff round options .zero (-1) 1 with ⟨radius, built, own, -⟩
  have noWidth : peg.defaults.givenWidth = none := by decide +kernel
  refine ⟨round, sized, ?_⟩
  rw [built, (own sized).2 (.inr (by simp [noWidth]))]

/-- A width of the template takes the place of the radius that a body gives. -/
theorem not_radius_eq_own : ¬∀ (template : Template) (options : BodyOptions),
    template.shape ≠ .rectangle → options.SizesCircle → ∀ position index next,
      ((Factory.template template).build options position index next).1.geometry =
        .circle options.circleRadius := by
  intro wins
  have same := wins (.new .circle ⟨none, some 100, none, .empty⟩) ⟨some 5, none, none, .empty⟩
    (by decide) (.inl (by decide +kernel)) .zero 0 1
  exact absurd same (by decide +kernel)

end Template

end PhysicsScene
