/-!
# Command line arguments

The program is told to load a scene file or to compile a source file. Options may stand before or
after the command: each side may give an option once, and the side after the command wins. An
option has its value after an equals sign or as the next argument, which then must not look like
an option itself. In place of all this the program can be asked for its version; the first
argument that asks for it or cannot be understood decides.
-/

namespace PhysicsScene

namespace CommandLine

/-- What the program is told to do. -/
inductive Command where
  | load (scene : String)
  | compile (source : String) (url : Option String)
deriving DecidableEq, Repr

/-- A complete command line. -/
structure Invocation where
  config : Option String
  steps : Nat
  command : Command
deriving DecidableEq, Repr

/-- The number of steps if none is given. -/
def defaultSteps : Nat := 120

/-- What the arguments ask for. -/
inductive Request where
  | version
  | run (invocation : Invocation)
deriving DecidableEq, Repr

/-- Options and files on one side of the command. -/
structure Given where
  config : Option String
  steps : Option Nat
  url : Option String
  file : Option String
deriving DecidableEq, Repr

namespace Given

/-- Nothing given. -/
def nothing : Given := ⟨none, none, none, none⟩

end Given

/-- The options that the program knows. -/
inductive OptionName where
  | config
  | steps
  | url
deriving DecidableEq, Repr

/-- A number of steps: an integer with or without sign, from zero to below `2 ^ 32`. -/
def steps? (text : List Char) : Option Nat :=
  let (negative, digits) :=
    match text with
    | '-' :: rest => (true, rest)
    | '+' :: rest => (false, rest)
    | _ => (false, text)
  if digits.isEmpty || !digits.all Char.isDigit then none
  else
    let value := digits.foldl (fun value digit => 10 * value + (digit.toNat - '0'.toNat)) 0
    if value < UInt32.size && (!negative || value = 0) then some value else none

/-- The known option that an argument names, and its value if it holds one. -/
def option? (argument : List Char) : Option (OptionName × Option (List Char)) :=
  match argument with
  | '-' :: '-' :: text =>
      let name := text.takeWhile (· ≠ '=')
      let value :=
        match text.drop name.length with
        | _ :: value => some value
        | [] => none
      if name = ['c', 'o', 'n', 'f', 'i', 'g'] then some (.config, value)
      else if name = ['s', 't', 'e', 'p', 's'] then some (.steps, value)
      else if name = ['u', 'r', 'l'] then some (.url, value)
      else none
  | _ => none

/-- Whether an argument looks like an option; a single dash does not. -/
def looksLikeOption (argument : List Char) : Bool :=
  match argument with
  | '-' :: _ :: _ => true
  | _ => false

/-- Notes the value of an option that was not given yet on this side. -/
def note (given : Given) (name : OptionName) (value : List Char) : Option Given :=
  match name with
  | .config =>
      if given.config.isSome || value.isEmpty then none
      else some { given with config := some (String.ofList value) }
  | .steps =>
      if given.steps.isSome then none
      else do pure { given with steps := some (← steps? value) }
  | .url =>
      if given.url.isSome then none else some { given with url := some (String.ofList value) }

/-- Notes the file that a command works on. -/
def noteFile (given : Given) (argument : List Char) : Option Given :=
  if given.file.isSome || argument.isEmpty then none
  else some { given with file := some (String.ofList argument) }

/-- What the next argument may be. -/
inductive Expected where
  /-- An option, a command or a file. -/
  | anything
  /-- The value of an option. -/
  | valueOf (name : OptionName)
  /-- A file, whatever it looks like. -/
  | file
deriving DecidableEq, Repr

/-- Takes an option with its value, or waits for the value. -/
def takeOption (given : Given) (name : OptionName) :
    Option (List Char) → Option (Expected × Given)
  | none => some (.valueOf name, given)
  | some value => do pure (.anything, ← note given name value)

/-- Takes an argument as the value of an option. -/
def takeValue (given : Given) (name : OptionName) (argument : List Char) :
    Option (Expected × Given) :=
  if looksLikeOption argument then none
  else do pure (.anything, ← note given name argument)

/-- Takes an argument after the command; only compiling knows the option `--url`. -/
def takeAfter (takesUrl : Bool) (expected : Expected) (given : Given) (argument : List Char) :
    Option (Expected × Given) :=
  match expected with
  | .file => do pure (.file, ← noteFile given argument)
  | .valueOf name => takeValue given name argument
  | .anything =>
      if argument = ['-', '-'] then some (.file, given)
      else
        match option? argument with
        | some (name, value) =>
            if name = .url && !takesUrl then none else takeOption given name value
        | none =>
            if looksLikeOption argument then none
            else do pure (.anything, ← noteFile given argument)

/-- Whether the arguments may end here. -/
def mayEnd : Expected → Bool
  | .valueOf _ => false
  | _ => true

/-- Reads what follows a command. -/
def readAfter (takesUrl : Bool) (arguments : List (List Char)) : Option Given := do
  let (expected, given) ← arguments.foldlM
    (fun (expected, given) argument => takeAfter takesUrl expected given argument)
    (.anything, Given.nothing)
  if mayEnd expected then some given else none

/-- Puts the two sides of a command together. -/
def join (before after : Given) (command : Command) : Invocation where
  config := after.config <|> before.config
  steps := (after.steps <|> before.steps).getD defaultSteps
  command := command

/-- Whether an argument asks for the version. -/
def asksVersion (argument : List Char) : Bool :=
  match argument with
  | '-' :: 'V' :: _ => true
  | _ => argument = ['-', '-', 'v', 'e', 'r', 's', 'i', 'o', 'n']

/-- Reads a command line up to its command, and the rest of it by `readAfter`. -/
def readBefore : Expected → Given → List (List Char) → Option Request
  | _, _, [] => none
  | .valueOf name, given, argument :: rest => do
      let (expected, given) ← takeValue given name argument
      readBefore expected given rest
  | _, given, argument :: rest =>
      if argument = ['l', 'o', 'a', 'd'] then do
        let after ← readAfter false rest
        pure (.run (join given after (.load (← after.file))))
      else if argument = ['c', 'o', 'm', 'p', 'i', 'l', 'e'] then do
        let after ← readAfter true rest
        pure (.run (join given after (.compile (← after.file) after.url)))
      else if asksVersion argument then some .version
      else
        match option? argument with
        | none => none
        | some (.url, _) => none
        | some (name, value) => do
            let (expected, given) ← takeOption given name value
            readBefore expected given rest

/-- What arguments ask for; none if they are not understood. -/
def parse (arguments : List String) : Option Request :=
  readBefore .anything .nothing (arguments.map String.toList)

end CommandLine

end PhysicsScene
