import PhysicsScene.Json.Decoder
import PhysicsScene.Json.Printer

/-!
# Phases of a simulation

A simulation is constructed, then ready, running or paused in any order, and in the end disposed.
In JSON a phase is its name, or an object with its name as the only key and `null` as the value.
-/

namespace PhysicsScene

/-- Where a simulation is in its life. -/
inductive Phase where
  /-- Nothing was drawn yet. -/
  | constructed
  /-- A frame was drawn, and the world stands still. -/
  | ready
  /-- The world moves at every tick. -/
  | running
  /-- The world stands still after it moved. -/
  | paused
  /-- Nothing can be done any more. -/
  | disposed
deriving DecidableEq, Repr

namespace Phase

/-- All phases. -/
def all : List Phase := [.constructed, .ready, .running, .paused, .disposed]

/-- The name of a phase. -/
def name : Phase → String
  | .constructed => "Constructed"
  | .ready => "Ready"
  | .running => "Running"
  | .paused => "Paused"
  | .disposed => "Disposed"

/-- The phase of a name. -/
def ofName? (name : String) : Option Phase :=
  all.find? fun phase => phase.name = name

/-- Reads the name of a phase; nothing but a text can stand in its place. -/
def readName (depth : Nat) : Reader Phase := do
  match ← Reader.significant with
  | none => Reader.fail .truncated
  | some '"' => do
      match ofName? (← Decoder.text.read depth) with
      | some phase => pure phase
      | none => Reader.fail .mismatched
  | some _ => Reader.fail .malformed

/-- Reads `null` and nothing else. -/
def readNull : Reader Unit :=
  Decoder.readIf (· = 'n') (Reader.word ['n', 'u', 'l', 'l'])

/-- Reads a phase in either form. -/
def read (depth : Nat) : Reader Phase := do
  match ← Reader.significant with
  | some '\x7b' => Reader.nested depth fun inside => do
      let phase ← readName inside
      Reader.colon
      readNull
      match ← Reader.significant with
      | none => Reader.fail .truncated
      | some '\x7d' => do
          Reader.drop
          pure phase
      | some _ => Reader.fail .malformed
  | _ => readName depth

/-- The text of a phase. -/
def chars (phase : Phase) : List Char :=
  Json.textChars phase.name

end Phase

end PhysicsScene
