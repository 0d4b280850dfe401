import PhysicsScene.Proofs.Json.Yields
import PhysicsScene.Proofs.Shape.Plain

/-!
# Scenes that come from a text

A scene made by the host may bring rules of any kind. A scene that is read from a text brings
templates only, since no text stands for a rule: of the four parts of a scene only the last touches
the overrides, and it makes a template of every member that it keeps.
-/

namespace PhysicsScene

namespace Scene

/-- All overrides that the scene brings are built-in shapes or templates. -/
def IsPlain (scene : Scene) : Prop :=
  ∀ table ∈ scene.overrides, Factory.ArePlain table

theorem isPlain_empty : IsPlain empty := by
  intro table isTable
  cases isTable

theorem yields_read_overrides (depth : Nat) :
    (Overrides.decoder.read depth).Yields Factory.ArePlain := by
  apply Reader.yields_map
  intro text members rest _
  exact Overrides.arePlain_ofDictionary members

/-- Every part of a scene keeps the overrides plain. -/
theorem keeps_isPlain : ∀ field ∈ record.fields, field.Keeps IsPlain := by
  intro field member
  simp only [record, Decoder.Record.ofDraft, List.mem_cons, List.not_mem_nil, or_false] at member
  have anything : ∀ {α : Type} {reader : Reader α}, reader.Yields fun _ => True :=
    Reader.yields_of_forall fun _ => trivial
  rcases member with rfl | rfl | rfl | rfl
  · exact Decoder.keeps_field (fun _ => anything) fun _ _ _ plain => plain
  · exact Decoder.keeps_field (fun _ => anything) fun _ _ _ plain => plain
  · exact Decoder.keeps_field (fun _ => anything) fun _ _ _ plain => plain
  · exact Decoder.keeps_field
      (fun depth => Decoder.yields_read_nullable (yields_read_overrides depth))
      fun _ tables _ _ => tables

/-- What a text says about shapes are templates. -/
theorem isPlain_of_decode {text : String} {scene : Scene} (decoded : decode text = .ok scene) :
    scene.IsPlain := by
  have yields : (record.read Json.depthLimit).Yields IsPlain := by
    refine Decoder.Record.yields_read keeps_isPlain ?_ isPlain_empty Json.depthLimit
    intro draft plain scene finished
    cases finished
    exact plain
  exact yields.of_run decoded

end Scene

end PhysicsScene
