import PhysicsScene.CommandLine.Run

/-!
# The program

Reads files and arguments, runs `CommandLine.run` and writes what it gives. No network client is
part of the program, so every request to a compile service ends as a broken connection.
-/

namespace PhysicsScene

namespace Program

/-- The number of a failed access, which may be given below zero. -/
def systemNumber (code : UInt32) : Nat :=
  code.toInt32.toInt.natAbs

/-- What a failed file access means. -/
def problem : IO.Error → CommandLine.FileProblem
  | .noFileOrDirectory _ _ _ => .missing
  | .permissionDenied _ _ _ => .forbidden
  | .inappropriateType _ code _ =>
      if systemNumber code = 20 then .notDirectory else .isDirectory
  | .invalidArgument _ _ _ => .nameTooLong
  | other => .other (toString other)

/-- The bytes of a file, or why it cannot be read. -/
def bytesOf (path : String) : IO (Except CommandLine.FileProblem (List UInt8)) := do
  try
    pure (.ok (← IO.FS.readBinFile path).toList)
  catch error => pure (.error (problem error))

/-- Reads all files that the arguments could name. -/
def readNamedFiles (arguments : List String) :
    IO (List (String × Except CommandLine.FileProblem (List UInt8))) :=
  match CommandLine.parse arguments with
  | none | some .version => pure []
  | some (.run invocation) =>
      let file :=
        match invocation.command with
        | .load scene => scene
        | .compile source _ => source
      (invocation.config.toList ++ [file]).mapM fun path => do pure (path, ← bytesOf path)

end Program

end PhysicsScene

open PhysicsScene in
/-- Runs the program. -/
def main (arguments : List String) : IO UInt32 := do
  let files ← Program.readNamedFiles arguments
  let surroundings : CommandLine.Surroundings :=
    { bytesOf := fun path => (files.lookup path).getD (.error .missing)
      post := fun _ _ => .broken "no network" }
  let outcome := CommandLine.run surroundings arguments
  IO.print outcome.output
  IO.eprint outcome.complaint
  pure (UInt32.ofNat outcome.code)
