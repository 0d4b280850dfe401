import PhysicsScene.Stage.Basic

/-!
# Compiling into a stage

A compile request takes its time, and the host may do anything with the stage until the result
arrives. What counts is the stage at that moment: a disposed stage discards the result, whatever
it is; otherwise a failed result changes nothing and a scene is loaded.
-/

namespace PhysicsScene

/-- What became of a compile request. -/
inductive Arrival where
  | loaded (report : LoadSummary)
  | failed (failure : Failure)
  | discarded

namespace Arrival

/-- Whether a scene was loaded. -/
def isLoaded : Arrival → Bool
  | loaded _ => true
  | _ => false

end Arrival

namespace Stage

/-- The result of a compile request arrives. -/
def arrive (result : Except Failure Scene) : StateM Stage Arrival := do
  if (← get).isDisposed then pure .discarded
  else
    match result with
    | .error failure => pure (.failed failure)
    | .ok scene => do
        match ← (load scene).run with
        | .ok report => pure (.loaded report)
        | .error failure => pure (.failed failure)

/-- A whole compile request; the transport may act on the stage before it answers. -/
def compile (transport : Action Stage Scene) : StateM Stage Arrival := do
  let result ← transport.run
  arrive result

end Stage

end PhysicsScene
