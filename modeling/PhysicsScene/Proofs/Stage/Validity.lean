import PhysicsScene.Proofs.Settings.Stored
import PhysicsScene.Proofs.Stage.Disposal

/-!
# The settings of a run

Settings are checked when they are decoded and never again. What a host does with a stage changes
them only by recording a window size or the debug flag, before and after disposal alike
(`settings_run`). So the settings of a stage stay ones that it can run with exactly as long as the
last window size that was recorded is positive (`validate_run_iff`).
-/

namespace PhysicsScene

/-- The window size that an operation records. -/
def Operation.size? : Operation → Option Vector2
  | .resizeWindow width height => some ⟨width, height⟩
  | _ => none

/-- The window size that was recorded last. -/
def Operation.lastSize? (operations : List Operation) : Option Vector2 :=
  operations.reverse.findSome? size?

namespace Settings

theorem size_recorded (settings : Settings) (operation : Operation) :
    (settings.recorded operation).size = operation.size?.getD settings.size := by
  cases operation <;> rfl

theorem size_foldl_recorded (settings : Settings) (operations : List Operation) :
    (operations.foldl recorded settings).size =
      (Operation.lastSize? operations).getD settings.size := by
  induction operations using List.reverseRecOn with
  | nil => rfl
  | append_singleton earlier operation ih =>
      rw [List.foldl_append, List.foldl_cons, List.foldl_nil, size_recorded, ih,
        Operation.lastSize?, Operation.lastSize?, List.reverse_concat, List.findSome?_cons]
      cases operation.size? <;> rfl

/-- Nothing but the size and the debug flag is ever recorded. -/
theorem foldl_recorded_eq (settings : Settings) (operations : List Operation) :
    ∃ width height debug,
      operations.foldl recorded settings = { settings with width, height, debug } := by
  induction operations using List.reverseRecOn with
  | nil => exact ⟨settings.width, settings.height, settings.debug, rfl⟩
  | append_singleton earlier operation ih =>
      rcases ih with ⟨width, height, debug, same⟩
      rw [List.foldl_append, List.foldl_cons, List.foldl_nil, same]
      cases operation with
      | resizeWindow width height => exact ⟨width, height, debug, rfl⟩
      | noteDebug debug => exact ⟨width, height, debug, rfl⟩
      | _ => exact ⟨width, height, debug, rfl⟩

/-- Valid settings stay valid iff the size that is recorded last, if any, is positive. -/
theorem valid_foldl_recorded_iff {settings : Settings} (valid : settings.Valid)
    (operations : List Operation) :
    (operations.foldl recorded settings).Valid ↔
      ∀ size ∈ Operation.lastSize? operations, 0 < size.x ∧ 0 < size.y := by
  have last := size_foldl_recorded settings operations
  rcases foldl_recorded_eq settings operations with ⟨width, height, debug, same⟩
  rw [same] at last ⊢
  have recordedSize : Settings.Valid { settings with width, height, debug } ↔
      0 < width ∧ 0 < height :=
    ⟨fun kept => ⟨kept.width, kept.height⟩,
      fun positive => ⟨positive.1, positive.2, valid.timeStep, valid.compileTimeout⟩⟩
  rw [recordedSize]
  cases isLast : Operation.lastSize? operations with
  | none =>
      rw [isLast] at last
      have unchanged : width = settings.width ∧ height = settings.height := by
        simpa [Settings.size] using last
      simp [unchanged, valid.width, valid.height]
  | some size =>
      rw [isLast, Option.getD_some] at last
      simp [← last, Settings.size]

end Settings

namespace Stage

/-- One operation records what the host says, and nothing else. -/
theorem settings_after (stage : Stage) (operation : Operation) :
    (stage.after operation).settings = stage.settings.recorded operation := by
  cases disposed : stage.isDisposed with
  | true => rw [after_of_disposed disposed, settings_disposedAfter]
  | false =>
      rw [after_of_live disposed]
      cases operation with
      | resizeWindow width height =>
          simp [liveAfter, resizeWindow, disposed, mapSimulation, Settings.recorded]
      | loadText text =>
          simp only [liveAfter, Settings.recorded]
          split <;> rfl
      | arrive result => cases result <;> rfl
      | _ => rfl

/-- The settings of a run are the initial ones with what was recorded. -/
theorem settings_run (stage : Stage) (operations : List Operation) :
    (stage.run operations).settings = operations.foldl Settings.recorded stage.settings := by
  induction operations using List.reverseRecOn with
  | nil => rfl
  | append_singleton earlier operation ih =>
      rw [run_concat, settings_after, ih, List.foldl_append, List.foldl_cons, List.foldl_nil]

/-- Along a run the settings are valid iff the last recorded size, if any, is positive. Then, if all
numbers are finite too, what a host stores is loaded again as these settings, and else not at all. -/
theorem validate_run_iff {text : String} {settings : Settings}
    (accepted : Settings.ofText text = .ok settings) (operations : List Operation) :
    let reached := ((new settings).run operations).settings
    let isPositive := ∀ size ∈ Operation.lastSize? operations, 0 < size.x ∧ 0 < size.y
    (reached.validate = .ok () ↔ isPositive) ∧
      ∀ loaded, Settings.ofText reached.toText = .ok loaded ↔
        isPositive ∧ reached.isFinite = true ∧ loaded = reached := by
  intro reached isPositive
  have valid : reached.Valid ↔ isPositive := by
    unfold reached
    rw [settings_run]
    exact Settings.valid_foldl_recorded_iff (Settings.valid_of_ofText accepted) operations
  refine ⟨(Settings.validate_eq_ok_iff reached).trans valid, fun loaded => ?_⟩
  rw [Settings.ofText_toText_eq_ok_iff, valid]

/-- A size without an extent that is followed by one that has an extent, after disposal. -/
theorem validate_run_iff_resized :
    let operations := [.resizeWindow 0 (-1), .dispose, .noteDebug true, .resizeWindow 320 200]
    let reached := ((new .default).run operations).settings
    reached.validate = .ok () ∧ Settings.ofText reached.toText = .ok reached := by
  intro operations reached
  have accepted : Settings.ofText "\x7b\x7d" = .ok .default := rfl
  have restored := validate_run_iff accepted operations
  have isPositive : ∀ size ∈ Operation.lastSize? operations, 0 < size.x ∧ 0 < size.y := by
    rintro size ⟨⟩
    decide +kernel
  have isFinite : reached.isFinite = true := by
    unfold reached
    rw [settings_run]
    decide +kernel
  exact ⟨restored.1.2 isPositive, (restored.2 reached).2 ⟨isPositive, isFinite, rfl⟩⟩

/-- A window without an extent leaves settings that a stage cannot run with. -/
theorem not_validate_run : ¬∀ text settings, Settings.ofText text = .ok settings →
    ∀ operations, ((new settings).run operations).settings.validate = .ok () := by
  intro stays
  have accepted : Settings.ofText "\x7b\x7d" = .ok .default := rfl
  have valid := (Settings.validate_eq_ok_iff _).1 (stays _ _ accepted [.resizeWindow 0 0])
  rw [settings_run] at valid
  exact absurd valid.width (by decide +kernel)

end Stage

end PhysicsScene
