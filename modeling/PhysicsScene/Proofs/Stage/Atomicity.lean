import PhysicsScene.Compiler.Reply
import PhysicsScene.Proofs.Stage.Outcome

/-!
# Operations that come to nothing

An action keeps what it changed before it failed, so nothing about actions as such says that a
failing operation leaves a stage alone. It does, for two reasons. Whatever is refused is refused
before the first write. And a load, which moves the camera and replaces the names while there are
still calls ahead that can fail, never reaches one that does: on a live stage it always succeeds.
A compile request adds nothing of its own to what the host does while it waits.
-/

namespace PhysicsScene

/-- The answers of operations that came to nothing. -/
inductive Fruitless : Except Failure Answer → Prop
  | refused (failure : Failure) : Fruitless (.error failure)
  | failed (failure : Failure) : Fruitless (.ok (.compiled (.failed failure)))
  | discarded : Fruitless (.ok (.compiled .discarded))

namespace Reply

/-- The reply is a success whose body is the text of a scene. -/
def Brings (reply : Reply) (scene : Scene) : Prop :=
  ∃ status body, reply = .received status body ∧ isSuccess status = true ∧
    Scene.decode (Utf8.lenient body) = .ok scene

theorem scene_eq_ok_iff (reply : Reply) (timeout : UInt64) (scene : Scene) :
    reply.scene timeout = .ok scene ↔ reply.Brings scene := by
  cases reply with
  | timedOut => simp [Reply.scene, Brings]
  | broken detail => simp [Reply.scene, Brings]
  | received status body =>
      cases success : isSuccess status with
      | false => simp [Reply.scene, Brings, success]
      | true =>
          cases decoded : Scene.decode (Utf8.lenient body) <;>
            simp [Reply.scene, Brings, success, decoded, Failure.ofFault]

end Reply

namespace Stage

variable {stage : Stage}

theorem after_eq_of_fruitless_of_live (live : stage.isDisposed = false) {operation : Operation}
    (fruitless : Fruitless (stage.answer operation)) : stage.after operation = stage := by
  rw [answer_of_live live] at fruitless
  rw [after_of_live live]
  cases operation with
  | loadText text =>
      cases decoded : Scene.decode text with
      | ok scene =>
          simp only [liveAnswer, decoded] at fruitless
          cases fruitless
      | error fault => simp only [liveAfter, decoded]
  | arrive result =>
      cases result with
      | ok scene => cases fruitless
      | error failure => rfl
  | _ => cases fruitless

theorem after_eq_of_fruitless_of_disposed (disposed : stage.isDisposed = true)
    {operation : Operation} (fruitless : Fruitless (stage.answer operation)) :
    stage.after operation = stage := by
  rw [answer_of_disposed disposed] at fruitless
  rw [after_of_disposed disposed]
  cases operation with
  | resizeWindow width height => cases fruitless
  | noteDebug debug => cases fruitless
  | register name factory => cases fruitless
  | _ => rfl

/-- A compile request does what its transport does, and then its result arrives. -/
theorem run_compile (transport : Action Stage Scene) (stage : Stage) :
    (compile transport).run stage =
      (arrive (transport.outcome stage).1).run (transport.outcome stage).2 :=
  rfl

/-- An arrival that loads nothing changes nothing. -/
theorem run_arrive_eq_of_not_loaded {result : Except Failure Scene} {outcome : Arrival}
    {after : Stage} (arrives : (arrive result).run stage = (outcome, after))
    (notLoaded : outcome.isLoaded = false) : after = stage := by
  rw [run_arrive] at arrives
  cases life : stage.isDisposed with
  | true =>
      rw [if_pos life] at arrives
      cases arrives
      rfl
  | false =>
      rw [life] at arrives
      cases result with
      | error failure =>
          cases arrives
          rfl
      | ok scene =>
          cases arrives
          cases notLoaded

/-- When operations on a stage can fail, and what a failure leaves. -/
structure Atomic (stage : Stage) : Prop where
  /-- What came to nothing left the whole stage as it was. -/
  after_eq : ∀ operation, Fruitless (stage.answer operation) → stage.after operation = stage
  /-- A compile request that loads nothing leaves what the host did while it waited. -/
  compile_eq : ∀ transport outcome after, (compile transport).run stage = (outcome, after) →
    outcome.isLoaded = false → after = (transport.outcome stage).2
  compile_error : ∀ transport failure during,
    transport.outcome stage = (.error failure, during) →
      (compile transport).run stage =
        (if during.isDisposed then .discarded else .failed failure, during)
  /-- No call in the course of a load fails on a live stage. -/
  load_ok : stage.isDisposed = false → ∀ scene, ∃ report,
    stage.answer (.load scene) = .ok (.loaded report)
  loadText_error_iff : stage.isDisposed = false → ∀ text,
    (∃ failure, stage.answer (.loadText text) = .error failure) ↔
      ∃ fault, Scene.decode text = .error fault
  /-- On a live stage a request fails exactly if its reply does not bring a scene. -/
  arrive_failed_iff : stage.isDisposed = false → ∀ (reply : Reply) timeout,
    (∃ failure, (arrive (reply.scene timeout)).run stage = (.failed failure, stage)) ↔
      ∀ scene, ¬reply.Brings scene

theorem loadText_error_iff_of_live (live : stage.isDisposed = false) (text : String) :
    (∃ failure, stage.answer (.loadText text) = .error failure) ↔
      ∃ fault, Scene.decode text = .error fault := by
  rw [answer_of_live live, liveAnswer]
  cases decoded : Scene.decode text <;> simp

theorem arrive_failed_iff_of_live (live : stage.isDisposed = false) (reply : Reply)
    (timeout : UInt64) :
    (∃ failure, (arrive (reply.scene timeout)).run stage = (.failed failure, stage)) ↔
      ∀ scene, ¬reply.Brings scene := by
  rw [run_arrive, live]
  simp only [Bool.false_eq_true, if_false, ← reply.scene_eq_ok_iff timeout]
  cases result : reply.scene timeout with
  | error failure =>
      constructor
      · intro _ scene brings
        cases brings
      · intro _
        exact ⟨failure, rfl⟩
  | ok scene =>
      constructor
      · rintro ⟨failure, failed⟩
        cases failed
      · intro bringsNone
        exact absurd rfl (bringsNone scene)

/-- On every stage, what fails leaves no trace. -/
theorem atomic (stage : Stage) : stage.Atomic where
  after_eq := by
    intro operation fruitless
    cases life : stage.isDisposed with
    | true => exact after_eq_of_fruitless_of_disposed life fruitless
    | false => exact after_eq_of_fruitless_of_live life fruitless
  compile_eq := by
    intro transport outcome after compiles notLoaded
    rw [run_compile] at compiles
    exact run_arrive_eq_of_not_loaded compiles notLoaded
  compile_error := by
    intro transport failure during fails
    rw [run_compile, fails, run_arrive]
    split <;> rfl
  load_ok := by
    intro live scene
    exact ⟨_, answer_of_live live _⟩
  loadText_error_iff := loadText_error_iff_of_live
  arrive_failed_iff := arrive_failed_iff_of_live

end Stage

end PhysicsScene
