import PhysicsScene.Dictionary.Lemmas
import PhysicsScene.Main
import PhysicsScene.Stage.Operation
import PhysicsScene.Text.QuotedName
import PhysicsScene.Proofs.Action
import PhysicsScene.Proofs.Simulation.Transition
import PhysicsScene.Proofs.Loading.Casting
import PhysicsScene.Proofs.Loading.Replacement
import PhysicsScene.Proofs.Stage.Outcome
import PhysicsScene.Proofs.Simulation.Coherence
import PhysicsScene.Proofs.Stage.Disposal
import PhysicsScene.Proofs.Stage.Phases
import PhysicsScene.Proofs.Stage.Coherence
import PhysicsScene.Proofs.Stage.Exchange
import PhysicsScene.Proofs.Stage.Atomicity
import PhysicsScene.Proofs.Shape.Plain
import PhysicsScene.Proofs.Loading.Numbering
import PhysicsScene.Proofs.World.Step
import PhysicsScene.Proofs.Json.Yields
import PhysicsScene.Proofs.World.Numbering
import PhysicsScene.Proofs.Scene.Plain
import PhysicsScene.Proofs.Stage.Frame
import PhysicsScene.Proofs.Stage.Identity
import PhysicsScene.Proofs.World.Motion
import PhysicsScene.Proofs.Stage.Trajectory
import PhysicsScene.Proofs.Stage.History
import PhysicsScene.Proofs.Json.Canonical
import PhysicsScene.Proofs.Stage.Expansion
import PhysicsScene.Proofs.Json.Record
import PhysicsScene.Proofs.Scene.Acceptance
import PhysicsScene.Proofs.Number
import PhysicsScene.Proofs.Scene.Meaning
import PhysicsScene.Proofs.Stage.Population
import PhysicsScene.Proofs.Json.Form
import PhysicsScene.Proofs.Json.Skip
import PhysicsScene.Proofs.Json.Agreement
import PhysicsScene.Proofs.Scene.Decoding
import PhysicsScene.Proofs.CommandLine.Routes
import PhysicsScene.Proofs.Json.Spelling
import PhysicsScene.Proofs.Json.Written
import PhysicsScene.Proofs.Json.RoundTrip
import PhysicsScene.Proofs.Stage.Validity
import PhysicsScene.Proofs.Number.Packing
import PhysicsScene.Proofs.Number.Rounding
import PhysicsScene.Proofs.Number.Nearest
import PhysicsScene.Proofs.Decimal.Interval
import PhysicsScene.Proofs.Decimal.Separation
import PhysicsScene.Proofs.Decimal.Shortest
import PhysicsScene.Proofs.Json.Magnitude
import PhysicsScene.Proofs.Decimal.ReadBack
import PhysicsScene.Proofs.Json.SingleText
import PhysicsScene.Proofs.Shape.Overlay
import PhysicsScene.Proofs.Shape.Registration
import PhysicsScene.Proofs.Stage.Report
import PhysicsScene.Proofs.Number.Whole
import PhysicsScene.Proofs.Number.CorrectRounding
import PhysicsScene.Proofs.Number.Conversion
import PhysicsScene.Proofs.Scene.Naming
import PhysicsScene.Proofs.Loading.Variables
import PhysicsScene.Proofs.Shape.Resolution
import PhysicsScene.Proofs.Scene.Framing
import PhysicsScene.Proofs.Stage.Camera
import PhysicsScene.Proofs.Text.ByteOrder
import PhysicsScene.Proofs.Stage.Steps
import PhysicsScene.Proofs.Stage.Names
import PhysicsScene.Proofs.CommandLine.Line
import PhysicsScene.Proofs.CommandLine.Printout
import PhysicsScene.Proofs.Shape.Layering
