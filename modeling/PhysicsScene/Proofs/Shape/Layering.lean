import PhysicsScene.Dictionary.Lemmas
import PhysicsScene.Proofs.Shape.Overlay

/-!
# Layers of options

A size can be left out in several ways: it is absent, a zero of either sign, or NaN. An overlay reads
its arguments only as far as they count (`BodyOptions.Alike`), and stores nothing but sizes that do
(`BodyOptions.IsSettled`). Settled options that count alike are equal, so the laws of overlays hold
as equations between options and not only up to the ways of leaving out a size.
-/

namespace PhysicsScene

namespace BodyOptions

/-- The sizes that are stored, whether they count or not. -/
def sizes (options : BodyOptions) : List Float32 :=
  options.radius.toList ++ options.width.toList ++ options.height.toList

/-- No stored size is a zero or NaN. -/
def IsSettled (options : BodyOptions) : Prop :=
  ∀ size ∈ options.sizes, (size == 0) = false ∧ size.isNaN = false

/-- Options that give the same sizes and have the same properties. -/
structure Alike (options other : BodyOptions) : Prop where
  radius_eq : options.givenRadius = other.givenRadius
  width_eq : options.givenWidth = other.givenWidth
  height_eq : options.givenHeight = other.givenHeight
  properties_eq : options.properties = other.properties

/-- The options `merged` are `own`, with the gaps filled from `defaults`. -/
structure Completes (own defaults merged : BodyOptions) : Prop where
  radius_eq : merged.givenRadius = (own.givenRadius <|> defaults.givenRadius)
  width_eq : merged.givenWidth = (own.givenWidth <|> defaults.givenWidth)
  height_eq : merged.givenHeight = (own.givenHeight <|> defaults.givenHeight)
  /-- Nothing is stored that does not count. -/
  settled : merged.IsSettled
  mem_keys_iff : ∀ name, name ∈ merged.properties.keys ↔
    name ∈ own.properties.keys ∨ name ∈ defaults.properties.keys
  /-- Where both sides have a property, the own value stays. -/
  find?_eq : ∀ name, merged.properties.find? name =
    (own.properties.find? name <|> defaults.properties.find? name)

theorem isGiven_iff (size : Float32) :
    isGiven size = true ↔ (size == 0) = false ∧ size.isNaN = false := by
  simp [isGiven]

@[simp]
theorem givenRadius_none : none.givenRadius = .none :=
  rfl

@[simp]
theorem givenWidth_none : none.givenWidth = .none :=
  rfl

@[simp]
theorem givenHeight_none : none.givenHeight = .none :=
  rfl

section Settled

variable {options other : BodyOptions}

theorem given_eq_self {size : Option Float32}
    (settled : ∀ stored ∈ size, (stored == 0) = false ∧ stored.isNaN = false) :
    given size = size := by
  cases size with
  | none => rfl
  | some stored => simp [given, (isGiven_iff stored).2 (settled stored rfl)]

/-- What counts of settled options is all of them. -/
theorem IsSettled.eq_given (settled : options.IsSettled) :
    options =
      ⟨options.givenRadius, options.givenWidth, options.givenHeight, options.properties⟩ := by
  have radius : options.givenRadius = options.radius :=
    given_eq_self fun size stored => settled size (by simp_all [sizes])
  have width : options.givenWidth = options.width :=
    given_eq_self fun size stored => settled size (by simp_all [sizes])
  have height : options.givenHeight = options.height :=
    given_eq_self fun size stored => settled size (by simp_all [sizes])
  rw [radius, width, height]

/-- Settled options have one form only. -/
theorem Alike.eq (alike : options.Alike other) (settled : options.IsSettled)
    (otherSettled : other.IsSettled) : options = other := by
  rw [settled.eq_given, otherSettled.eq_given, alike.radius_eq, alike.width_eq, alike.height_eq,
    alike.properties_eq]

theorem Completes.unique {own defaults : BodyOptions} (completes : own.Completes defaults options)
    (otherCompletes : own.Completes defaults other) : options = other := by
  have alike : options.Alike other := {
    radius_eq := completes.radius_eq.trans otherCompletes.radius_eq.symm
    width_eq := completes.width_eq.trans otherCompletes.width_eq.symm
    height_eq := completes.height_eq.trans otherCompletes.height_eq.symm
    properties_eq := Dictionary.ext_find? fun name =>
      (completes.find?_eq name).trans (otherCompletes.find?_eq name).symm }
  exact alike.eq completes.settled otherCompletes.settled

end Settled

section Alike

variable {options other : BodyOptions} (alike : options.Alike other)
include alike

theorem Alike.circleRadius_eq : options.circleRadius = other.circleRadius := by
  rw [circleRadius, circleRadius, alike.width_eq, alike.radius_eq]

theorem Alike.rectangleSize_eq : options.rectangleSize = other.rectangleSize := by
  rw [rectangleSize, rectangleSize, alike.width_eq, alike.height_eq]

end Alike

section Overlay

variable (own defaults rest : BodyOptions)

/-- A size that passes into an overlay counts. -/
theorem isGiven_of_orElse {ownSize size : Option Float32} {stored : Float32}
    (isStored : (given ownSize <|> given size) = some stored) : isGiven stored = true := by
  rw [← given_orElse_given] at isStored
  exact (Option.filter_eq_some_iff.1 isStored).2

theorem isSettled_overlay : (own.overlay defaults).IsSettled := by
  intro size stored
  have isStored : (own.overlay defaults).radius = some size ∨
      (own.overlay defaults).width = some size ∨ (own.overlay defaults).height = some size := by
    simpa [sizes, or_assoc] using stored
  rw [← isGiven_iff]
  rcases isStored with isRadius | isWidth | isHeight
  · exact isGiven_of_orElse isRadius
  · exact isGiven_of_orElse isWidth
  · exact isGiven_of_orElse isHeight

theorem completes_overlay : own.Completes defaults (own.overlay defaults) where
  radius_eq := givenRadius_overlay own defaults
  width_eq := givenWidth_overlay own defaults
  height_eq := givenHeight_overlay own defaults
  settled := isSettled_overlay own defaults
  mem_keys_iff := own.properties.mem_keys_overlay_iff defaults.properties
  find?_eq := own.properties.find?_overlay defaults.properties

theorem completes_iff (merged : BodyOptions) :
    own.Completes defaults merged ↔ merged = own.overlay defaults := by
  constructor
  · intro completes
    exact completes.unique (completes_overlay own defaults)
  · rintro rfl
    exact completes_overlay own defaults

/-- Of several layers it does not matter which two are merged first. -/
theorem overlay_assoc :
    (own.overlay defaults).overlay rest = own.overlay (defaults.overlay rest) := by
  have alike :
      ((own.overlay defaults).overlay rest).Alike (own.overlay (defaults.overlay rest)) := {
    radius_eq := by simp [Option.or_assoc]
    width_eq := by simp [Option.or_assoc]
    height_eq := by simp [Option.or_assoc]
    properties_eq := own.properties.overlay_assoc defaults.properties rest.properties }
  -- both sides are overlays, so nothing is left that could be stored and not count
  exact alike.eq (isSettled_overlay _ _) (isSettled_overlay _ _)

theorem alike_overlay_none : (own.overlay .none).Alike own where
  radius_eq := by simp
  width_eq := by simp
  height_eq := by simp
  properties_eq := own.properties.overlay_empty

theorem alike_none_overlay : (overlay .none own).Alike own where
  radius_eq := by simp
  width_eq := by simp
  height_eq := by simp
  properties_eq := own.properties.empty_overlay

theorem alike_overlay_self : (own.overlay own).Alike own where
  radius_eq := by simp
  width_eq := by simp
  height_eq := by simp
  properties_eq := own.properties.overlay_self

/-- Overlays are associative and the left side comes first, of sizes that count as of properties.
Nothing that counts is changed by options that give nothing, on either side, or by the options
themselves. -/
theorem overlay_lawful :
    (own.overlay defaults).overlay rest = own.overlay (defaults.overlay rest) ∧
      (∀ merged, own.Completes defaults merged ↔ merged = own.overlay defaults) ∧
      ∀ merged ∈ [own.overlay .none, overlay .none own, own.overlay own],
        merged.Alike own ∧ merged.circleRadius = own.circleRadius ∧
          merged.rectangleSize = own.rectangleSize := by
  refine ⟨overlay_assoc own defaults rest, completes_iff own defaults, ?_⟩
  intro merged isNeutral
  have alike : merged.Alike own := by
    simp only [List.mem_cons, List.not_mem_nil, or_false] at isNeutral
    rcases isNeutral with rfl | rfl | rfl
    · exact alike_overlay_none own
    · exact alike_none_overlay own
    · exact alike_overlay_self own
  exact ⟨alike, alike.circleRadius_eq, alike.rectangleSize_eq⟩

/-- Sizes that do not count are lost in an overlay with itself, but nothing that counts. -/
theorem overlay_lawful_unset :
    let own : BodyOptions := ⟨some (0 / 0), some (-0), some (1 / 0), .empty⟩
    let defaults : BodyOptions := ⟨some 0, some 6, some 9, Dictionary.empty.insert "label" .null⟩
    let rest : BodyOptions := ⟨some 40, some 8, .none, .empty⟩
    own.overlay own ≠ own ∧ (own.overlay own).Alike own ∧
      (own.overlay own).rectangleSize = own.rectangleSize ∧
      ((own.overlay defaults).sizes = [6, 1 / 0] ∧ (1 / 0 : Float32).isNaN = false) ∧
      (own.overlay (defaults.overlay rest)).radius = some 40 := by
  intro own defaults rest
  rcases overlay_lawful own defaults rest with ⟨assoc, completes, neutral⟩
  have changed : (own.overlay own).radius ≠ own.radius := by decide +kernel
  have stored : (own.overlay defaults).sizes = [6, 1 / 0] := by decide +kernel
  have settled := ((completes _).2 rfl).settled
  rcases neutral (own.overlay own) (by simp) with ⟨alike, -, rectangle⟩
  refine ⟨fun same => changed (congrArg radius same), alike, rectangle,
    ⟨stored, (settled (1 / 0) (by simp [stored])).2⟩, ?_⟩
  rw [← assoc]
  decide +kernel

end Overlay

end BodyOptions

end PhysicsScene
