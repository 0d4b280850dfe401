import PhysicsScene.Stage.Compilation

/-!
# Runs of a stage

Everything that a host can do with a stage is an `Operation`. `Stage.perform` does one operation
and gives its answer, and `Stage.run` does a list of them, whatever the answers are.
-/

namespace PhysicsScene

/-- Something that a host does with a stage. -/
inductive Operation where
  | ready
  | start
  | pause
  | tick
  | tickBy (duration : Float32)
  | load (scene : Scene)
  | loadText (text : String)
  | resizeWindow (width height : Float32)
  | noteDebug (debug : Bool)
  | register (name : String) (factory : Factory)
  | dispose
  | bodies
  | snapshot
  | camera
  /-- The result of a compile request arrives. -/
  | arrive (result : Except Failure Scene)

/-- What a host learns from an operation. -/
inductive Answer where
  | done
  | stepped (moved : Bool)
  | loaded (report : LoadSummary)
  | bodies (bodies : List Body)
  | snapshot (text : String)
  | camera (camera : Camera)
  | compiled (outcome : Arrival)

namespace Stage

/-- Does an operation. -/
def perform : Operation → Action Stage Answer
  | .ready => do
      ready
      pure .done
  | .start => do
      start
      pure .done
  | .pause => do
      pause
      pure .done
  | .tick => .stepped <$> tick
  | .tickBy duration => .stepped <$> tickBy duration
  | .load scene => .loaded <$> load scene
  | .loadText text => .loaded <$> loadText text
  | .resizeWindow width height => do
      modify (·.resizeWindow width height)
      pure .done
  | .noteDebug debug => do
      modify (·.noteDebug debug)
      pure .done
  | .register name factory => do
      modify (·.register name factory)
      pure .done
  | .dispose => do
      modify (·.dispose)
      pure .done
  | .bodies => .bodies <$> bodies
  | .snapshot => .snapshot <$> snapshot
  | .camera => .camera <$> camera
  | .arrive result => .compiled <$> arrive result

/-- The stage after an operation, whatever its answer is. -/
def after (stage : Stage) (operation : Operation) : Stage :=
  ((perform operation).run.run stage).2

/-- The stage after a list of operations. -/
def run (stage : Stage) (operations : List Operation) : Stage :=
  operations.foldl after stage

end Stage

end PhysicsScene
