import PhysicsScene.Json.Reader
import PhysicsScene.Decimal.Layout

/-!
# Failures

Everything that a stage can refuse or fail to do, as causes; `Failure.message` holds the wording.
The contents of a scene are never a failure: bodies that cannot be used are dropped, and unknown
shapes have a stand-in.
-/

namespace PhysicsScene

/-- What is wrong with the settings of a stage. -/
inductive SettingsProblem where
  | surfaceSize (width height : Float32)
  | timeStep (duration : Float32)
  | zeroTimeout
  /-- The file of settings could not be read. -/
  | unreadable (path reason : String)
  | invalidUrl (url reason : String)
  /-- The compile service has no absolute address. -/
  | relativeEndpoint (url : String)
  | described (text : String)

namespace SettingsProblem

/-- A single-precision number in a message. -/
def numberText (number : Float32) : String :=
  String.ofList (Decimal.messageChars .single (Single.value number))

/-- The wording of a problem. -/
def message : SettingsProblem → String
  | surfaceSize width height =>
      "surface size must be positive, got " ++ numberText width ++ "x" ++ numberText height
  | timeStep duration => "time_step must be positive, got " ++ numberText duration
  | zeroTimeout => "compile_timeout_ms must be non-zero"
  | unreadable path reason => path ++ ": " ++ reason
  | invalidUrl url reason => "invalid compile url '" ++ url ++ "': " ++ reason
  | relativeEndpoint url =>
      "compile url '" ++ url ++ "' is not absolute; " ++
        "pass --url http://host/compile or set compile_url in --config"
  | described text => text

end SettingsProblem

/-- Why an operation did not succeed. -/
inductive Failure where
  /-- The simulation is disposed, so the named operation is refused. -/
  | disposed (operation : String)
  | compileTimeout (milliseconds : UInt64)
  | compileTransport (detail : String)
  | compileStatus (status : UInt16)
  /-- A text could not be decoded. -/
  | undecodable (fault : Fault)
  | settings (problem : SettingsProblem)
  /-- A file could not be read. -/
  | file (reason : String)

namespace Failure

/-- The kind of fault in words. -/
def faultText : Fault → String
  | .malformed => "malformed text"
  | .truncated => "unexpected end of text"
  | .mismatched => "unexpected kind of value"

/-- The wording of a failure. -/
def message : Failure → String
  | disposed operation => "simulation is disposed: " ++ operation ++ " is not allowed"
  | compileTimeout milliseconds =>
      "compile request timed out after " ++
        String.ofList (Decimal.digitChars milliseconds.toNat) ++ " ms"
  | compileTransport detail => "compile request failed: " ++ detail
  | compileStatus status =>
      "compile service returned status " ++ String.ofList (Decimal.digitChars status.toNat)
  | undecodable fault => "invalid JSON: " ++ faultText fault
  | settings problem => "configuration error: " ++ problem.message
  | file reason => "io error: " ++ reason

/-- Whether an operation was refused because the simulation is disposed. -/
def isDisposed : Failure → Bool
  | disposed _ => true
  | _ => false

/-- Makes a fault of decoding a failure. -/
def ofFault {α : Type} : Except Fault α → Except Failure α
  | .ok value => .ok value
  | .error fault => .error (undecodable fault)

end Failure

/-- An action on a state that may fail; what it changed before it failed stays changed. -/
abbrev Action (σ α : Type) : Type := ExceptT Failure (StateM σ) α

namespace Action

/-- Does an action on a part of a larger state. -/
def onPart {σ τ α : Type} (part : σ → τ) (put : σ → τ → σ) (action : Action τ α) : Action σ α :=
  ExceptT.mk fun state =>
    let (result, changed) := action.run.run (part state)
    (result, put state changed)

end Action

end PhysicsScene
