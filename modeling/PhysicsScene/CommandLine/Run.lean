import PhysicsScene.CommandLine.Arguments
import PhysicsScene.CommandLine.FileTree
import PhysicsScene.Compiler.Reply
import PhysicsScene.Compiler.Request
import PhysicsScene.Stage.Compilation
import PhysicsScene.Url.Basic

/-!
# Running from the command line

A run brings a scene onto a stage, from a file or from the compiler, reports the load, lets the
stage tick and prints where the named bodies ended up, in the order of their names. Files and the
compile service are what surrounds the program; everything else is computed here.
-/

namespace PhysicsScene

namespace CommandLine

/-- What the program finds around it. -/
structure Surroundings where
  /-- The bytes of the file to which a path leads, or why it cannot be read. -/
  bytesOf : (path : String) → Except FileProblem (List UInt8)
  /-- What comes back when a form is posted to an address. -/
  post : (url : String) → (form : String) → Reply

/-- How a run ended. -/
inductive Outcome where
  /-- The arguments were not understood. -/
  | misused
  /-- What was printed, and the failure that ended the run early. -/
  | finished (output : String) (failure : Option Failure)

namespace Outcome

/-- The exit code of a run. -/
def code : Outcome → Nat
  | misused => 2
  | finished _ (some _) => 1
  | finished _ none => 0

/-- What a run prints. -/
def output : Outcome → String
  | misused => ""
  | finished output _ => output

/-- What a run writes about its failure. -/
def complaint : Outcome → String
  | misused => "usage: (load FILE | compile FILE [--url URL]) [--config FILE] [--steps N]\n"
  | finished _ (some failure) => "error: " ++ failure.message ++ "\n"
  | finished _ none => ""

end Outcome

/-- A part of a run: it prints, and it may fail. -/
abbrev Printing (α : Type) : Type := Action String α

/-- Prints a text. -/
def print (text : String) : Printing Unit :=
  modify (· ++ text)

/-- Stops a run with a failure. -/
def orFail {α : Type} : Except Failure α → Printing α
  | .ok value => pure value
  | .error failure => throw failure

/-- The text of a file, or why there is none. -/
def readText (surroundings : Surroundings) (path : String) : Except FileProblem String := do
  match Utf8.strict? (← surroundings.bytesOf path) with
  | some text => pure text
  | none => throw .notText

/-- The settings of a run. -/
def settingsFrom (surroundings : Surroundings) : Option String → Except Failure Settings
  | none => .ok .default
  | some path =>
      match readText surroundings path with
      | .ok text => Settings.ofText text
      | .error problem => .error (.settings (.unreadable path problem.message))

/-- The text of a file that the command names. -/
def inputText (surroundings : Surroundings) (path : String) : Except Failure String :=
  match readText surroundings path with
  | .ok text => .ok text
  | .error problem => .error (.file problem.message)

/-- The address of the compile service, which must be absolute. -/
def endpoint (settings : Settings) (url : Option String) : Except Failure String :=
  let address := url.getD settings.compileUrl
  if (Url.problem? address).isSome then .error (.settings (.relativeEndpoint address))
  else .ok address

/-- Refuses an address that is not absolute, for a client that takes any. -/
def checkAddress (url : String) : Except Failure Unit :=
  match Url.problem? url with
  | none => .ok ()
  | some problem => .error (.settings (.invalidUrl url problem.message))

/-- A number in decimal digits. -/
def numberText (value : Nat) : String :=
  String.ofList (Decimal.digitChars value)

/-- The line that reports a load. -/
def reportLine (report : LoadSummary) : String :=
  "Loaded " ++ numberText report.committed ++ " bodies (" ++ numberText report.bound ++
    " named, " ++ numberText report.dropped ++ " dropped, " ++ numberText report.discarded ++
    " discarded, " ++ numberText report.diagnostics ++ " diagnostics)\n"

/-- A text moved to the right of a column. -/
def rightAligned (width : Nat) (text : List Char) : List Char :=
  List.replicate (width - text.length) ' ' ++ text

/-- A coordinate with two places. -/
def coordinateText (coordinate : Float32) : List Char :=
  rightAligned 8 (Decimal.fixedChars 2 (Single.value coordinate))

/-- The line that says where a named body is. -/
def bodyLine (name : String) (position : Vector2) : String :=
  String.ofList
    (rightAligned 12 name.toList ++ ' ' :: ' ' :: '(' :: coordinateText position.x ++
      ',' :: ' ' :: coordinateText position.y ++ [')', '\n'])

/-- The lines of all named bodies, in the order of their names. -/
def bodyLines (stage : Stage) : String :=
  String.join (stage.playfield.namedBodies.map fun named => bodyLine named.1 named.2.position)

/-- Does an action on a stage in the course of a run. -/
def onStage {α : Type} (stage : Stage) (action : Action Stage α) : Printing (α × Stage) := do
  let (result, after) := action.run.run stage
  pure (← orFail result, after)

/-- Lets a stage tick a number of times, up to the first failure. -/
def tickTimes : Nat → Stage → Except Failure Stage
  | 0, stage => .ok stage
  | count + 1, stage =>
      match Stage.tick.run.run stage with
      | (.ok _, after) => tickTimes count after
      | (.error failure, _) => .error failure

/-- Loads a scene file onto a new stage. -/
def loadFile (surroundings : Surroundings) (settings : Settings) (path : String) :
    Printing Stage := do
  let text ← orFail (inputText surroundings path)
  let (report, stage) ← onStage (.new settings) (Stage.loadText text)
  print (reportLine report)
  pure stage

/-- Sends a source file to the compiler and loads the result; none if it was discarded. -/
def compileFile (surroundings : Surroundings) (settings : Settings) (path : String)
    (url : Option String) : Printing (Option Stage) := do
  let address ← orFail (endpoint settings url)
  let source ← orFail (inputText surroundings path)
  orFail (checkAddress address)
  let settings := { settings with compileUrl := address }
  let (_, readied) ← onStage (.new settings) Stage.ready
  let reply := surroundings.post address (Compiler.form source)
  let (outcome, stage) := (Stage.arrive (reply.scene settings.compileTimeout)).run readied
  match outcome with
  | .loaded report => do
      print (reportLine report)
      pure (some stage)
  | .failed failure => throw failure
  | .discarded => pure none

/-- Lets the stage run and prints where the named bodies are. -/
def simulate (steps : Nat) (stage : Stage) : Printing Unit := do
  let (_, started) ← onStage stage Stage.start
  let ended ← orFail (tickTimes steps started)
  print (bodyLines ended)

/-- A whole run. -/
def execute (surroundings : Surroundings) (invocation : Invocation) : Printing Unit := do
  let settings ← orFail (settingsFrom surroundings invocation.config)
  match invocation.command with
  | .load scene => do
      let stage ← loadFile surroundings settings scene
      simulate invocation.steps stage
  | .compile source url => do
      match ← compileFile surroundings settings source url with
      | some stage => simulate invocation.steps stage
      | none => pure ()

/-- The name and the version of the program. -/
def versionText : String := "scene-stage 0.1.0\n"

/-- Runs the program with its arguments. -/
def run (surroundings : Surroundings) (arguments : List String) : Outcome :=
  match parse arguments with
  | none => .misused
  | some .version => .finished versionText none
  | some (.run invocation) =>
      match (execute surroundings invocation).run.run "" with
      | (.ok _, output) => .finished output none
      | (.error failure, output) => .finished output (some failure)

end CommandLine

end PhysicsScene
