import PhysicsScene.CommandLine.Run
import PhysicsScene.Proofs.Stage.Matching
import PhysicsScene.Proofs.Text.Utf8

/-!
# Two routes to a scene

A scene text comes to a stage from a file or from the compiler. The first stage is new when the
scene arrives, the second has drawn a frame already, but they match, and nothing else is printed
than what matching stages share. So both routes print the same and end alike, and they fail exactly
if the text cannot be decoded.
-/

namespace PhysicsScene

namespace CommandLine

@[simp]
theorem outcome_orFail_ok {α : Type} (value : α) (printed : String) :
    (orFail (.ok value)).outcome printed = (.ok value, printed) :=
  rfl

@[simp]
theorem outcome_orFail_error {α : Type} (failure : Failure) (printed : String) :
    (orFail (.error failure) : Printing α).outcome printed = (.error failure, printed) :=
  rfl

@[simp]
theorem outcome_print (text printed : String) :
    (print text).outcome printed = (.ok (), printed ++ text) :=
  rfl

section Stage

variable {α : Type} {action : Action Stage α} {stage after : Stage} (printed : String)

theorem outcome_onStage_of_ok {answer : α} (done : action.outcome stage = (.ok answer, after)) :
    (onStage stage action).outcome printed = (.ok (answer, after), printed) := by
  have inside : action.run.run stage = (.ok answer, after) := done
  simp [onStage, inside]

theorem outcome_onStage_of_error {failure : Failure}
    (failed : action.outcome stage = (.error failure, after)) :
    (onStage stage action).outcome printed = (.error failure, printed) := by
  have inside : action.run.run stage = (.error failure, after) := failed
  simp [onStage, inside]

theorem outcome_start_of_live (live : stage.isDisposed = false) :
    Stage.start.outcome stage = (.ok (), stage.after .start) := by
  rw [Stage.after_of_live live]
  exact Stage.outcome_onSimulation_of_live live (Simulation.outcome_start _)

theorem outcome_ready_of_live (live : stage.isDisposed = false) :
    Stage.ready.outcome stage = (.ok (), stage.after .ready) := by
  rw [Stage.after_of_live live]
  exact Stage.outcome_onSimulation_of_live live (Simulation.outcome_ready _)

theorem exists_outcome_tick_of_live (live : stage.isDisposed = false) :
    ∃ moved, Stage.tick.outcome stage = (.ok moved, stage.after .tick) := by
  rw [Stage.after_of_live live, Stage.tick, Action.outcome_bind]
  exact ⟨_, Stage.outcome_onSimulation_of_live live
    (Simulation.outcome_tick stage.settings.timeStep _)⟩

/-- No beat of a live stage is refused. -/
theorem tickTimes_of_live (live : stage.isDisposed = false) (count : Nat) :
    tickTimes count stage = .ok (stage.run (.replicate count .tick)) := by
  induction count generalizing stage with
  | zero => rfl
  | succ count ih =>
      rcases exists_outcome_tick_of_live live with ⟨moved, outcome⟩
      have stepped : Stage.tick.run.run stage = (.ok moved, stage.after .tick) := outcome
      have stillLive : (stage.after .tick).isDisposed = false := by
        rw [Stage.isDisposed_after, live]
        rfl
      simp only [tickTimes, stepped]
      exact ih stillLive

/-- What is printed at the end: where the named bodies are after all beats. -/
theorem outcome_simulate (live : stage.isDisposed = false) (steps : Nat) :
    (simulate steps stage).outcome printed =
      (.ok (), printed ++ bodyLines (stage.run (.start :: .replicate steps .tick))) := by
  have stillLive : (stage.after .start).isDisposed = false := by
    rw [Stage.isDisposed_after, live]
    rfl
  simp only [simulate, Action.outcome_bind,
    outcome_onStage_of_ok printed (outcome_start_of_live live), tickTimes_of_live stillLive,
    outcome_orFail_ok, outcome_print]
  rfl

end Stage

/-- What a run prints that brings a scene onto a live stage and simulates it. -/
def printout (stage : Stage) (scene : Scene) (steps : Nat) : String :=
  reportLine (stage.playfield.summary scene) ++
    bodyLines ((stage.loaded scene).run (.start :: .replicate steps .tick))

theorem isDisposed_loaded {stage : Stage} (live : stage.isDisposed = false) (scene : Scene) :
    (stage.loaded scene).isDisposed = false := by
  have loads : stage.after (.load scene) = stage.loaded scene := Stage.after_of_live live _
  rw [← loads, Stage.isDisposed_after, live]
  rfl

/-- Matching stages print the same about a scene. -/
theorem printout_eq {first second : Stage} (isMatch : first.Matches second)
    (coherent : first.Coherent) (otherCoherent : second.Coherent)
    (live : first.isDisposed = false) (otherLive : second.isDisposed = false) (scene : Scene)
    (steps : Nat) : printout first scene steps = printout second scene steps := by
  have ended := (isMatch.loaded scene).run_start_ticks (coherent.loaded live scene)
    (otherCoherent.loaded otherLive scene) (isDisposed_loaded live scene)
    (isDisposed_loaded otherLive scene) steps
  rw [printout, printout, bodyLines, bodyLines, isMatch.summary_eq, ended.namedBodies_eq]

section Routes

variable {surroundings : Surroundings} {config : Option String} {settings : Settings}
  (accepted : settingsFrom surroundings config = .ok settings) (steps : Nat)

include accepted

/-- The route from a file: the scene comes to a new stage. -/
theorem outcome_execute_load {path text : String}
    (holds : surroundings.bytesOf path = .ok (Utf8.encode text)) :
    (execute surroundings ⟨config, steps, .load path⟩).outcome "" =
      match Scene.decode text with
      | .ok scene => (.ok (), printout (.new settings) scene steps)
      | .error fault => (.error (.undecodable fault), "") := by
  have read : inputText surroundings path = .ok text := by
    simp only [inputText, readText, holds, bind, Except.bind, Utf8.strict?_encode]
    rfl
  have live : (Stage.new settings).isDisposed = false := rfl
  simp only [execute, loadFile, Action.outcome_bind, accepted, read, outcome_orFail_ok]
  cases decoded : Scene.decode text with
  | error fault =>
      have failed : (Stage.loadText text).outcome (.new settings) =
          (.error (.undecodable fault), .new settings) := by
        rw [Stage.outcome_loadText, decoded]
      rw [outcome_onStage_of_error "" failed]
  | ok scene =>
      have done : (Stage.loadText text).outcome (.new settings) =
          (.ok ((Stage.new settings).playfield.summary scene), (Stage.new settings).loaded scene) := by
        rw [Stage.outcome_loadText, decoded]
        simp only [Stage.outcome_load, live, Bool.false_eq_true, if_false]
      rw [outcome_onStage_of_ok "" done]
      simp only [outcome_print, Action.outcome_pure,
        outcome_simulate _ (isDisposed_loaded live scene), printout, String.empty_append]

section Compile

variable {source code : String} {url : Option String}
  (readable : readText surroundings source = .ok code)
  (absolute : Url.problem? (url.getD settings.compileUrl) = none)

include readable absolute

/-- The route through the compiler: its reply comes to a stage that has drawn a frame. -/
theorem outcome_execute_compile :
    (execute surroundings ⟨config, steps, .compile source url⟩).outcome "" =
      match (surroundings.post (url.getD settings.compileUrl) (Compiler.form code)).scene
          settings.compileTimeout with
      | .ok scene =>
          (.ok (), printout
            ((Stage.new { settings with compileUrl := url.getD settings.compileUrl }).after .ready)
            scene steps)
      | .error failure => (.error failure, "") := by
  have address : endpoint settings url = .ok (url.getD settings.compileUrl) := by
    simp [endpoint, absolute]
  have checked : checkAddress (url.getD settings.compileUrl) = .ok () := by
    simp [checkAddress, absolute]
  have read : inputText surroundings source = .ok code := by
    simp [inputText, readable]
  generalize url.getD settings.compileUrl = absoluteUrl at address checked
  have live : (Stage.new { settings with compileUrl := absoluteUrl }).isDisposed = false := rfl
  have readyLive :
      ((Stage.new { settings with compileUrl := absoluteUrl }).after .ready).isDisposed = false :=
    rfl
  simp only [execute, compileFile, Action.outcome_bind, accepted, address, read, checked,
    outcome_orFail_ok, outcome_onStage_of_ok "" (outcome_ready_of_live live), Stage.run_arrive,
    readyLive, Bool.false_eq_true, if_false]
  cases (surroundings.post absoluteUrl (Compiler.form code)).scene settings.compileTimeout with
  | error failure => rfl
  | ok scene =>
      simp only [Action.outcome_bind, outcome_print, Action.outcome_pure,
        outcome_simulate _ (isDisposed_loaded readyLive scene), printout, String.empty_append]

end Compile

end Routes

/-- How two command lines end that bring one text onto a stage by different routes. -/
structure Agree (surroundings : Surroundings) (loading compiling : List String) (text : String)
    (settings : Settings) (steps : Nat) : Prop where
  /-- They print the same and end alike. -/
  run_eq : run surroundings loading = run surroundings compiling
  /-- They fail exactly if the text cannot be decoded, without having printed anything. -/
  undecodable_iff : ∀ fault,
    run surroundings loading = .finished "" (some (.undecodable fault)) ↔
      Scene.decode text = .error fault
  succeeds_iff : ∀ output,
    run surroundings loading = .finished output none ↔
      ∃ scene, Scene.decode text = .ok scene ∧ output = printout (.new settings) scene steps

theorem run_of_outcome (surroundings : Surroundings) {arguments : List String}
    {invocation : Invocation} (asks : parse arguments = some (.run invocation)) :
    run surroundings arguments =
      match (execute surroundings invocation).outcome "" with
      | (.ok _, output) => .finished output none
      | (.error failure, output) => .finished output (some failure) := by
  simp only [run, asks]
  rfl

/-- A scene text brings about the same from a file as in a reply of success, and a reply of any
other status is a failure of its own, whatever its body is. -/
theorem routes_agree {surroundings : Surroundings} {loading compiling : List String}
    {config : Option String} {steps : Nat} {path source : String} {url : Option String}
    {settings : Settings} {text code : String} {status : UInt16} {body : List UInt8}
    (asksLoad : parse loading = some (.run ⟨config, steps, .load path⟩))
    (asksCompile : parse compiling = some (.run ⟨config, steps, .compile source url⟩))
    (accepted : settingsFrom surroundings config = .ok settings)
    (holds : surroundings.bytesOf path = .ok (Utf8.encode text))
    (readable : readText surroundings source = .ok code)
    (absolute : Url.problem? (url.getD settings.compileUrl) = none)
    (replies : surroundings.post (url.getD settings.compileUrl) (Compiler.form code) =
      .received status body) :
    (Reply.isSuccess status = true → body = Utf8.encode text →
      Agree surroundings loading compiling text settings steps) ∧
    (Reply.isSuccess status = false →
      run surroundings compiling = .finished "" (some (.compileStatus status))) := by
  have fromFile := run_of_outcome surroundings asksLoad
  have fromReply := run_of_outcome surroundings asksCompile
  rw [outcome_execute_load accepted steps holds] at fromFile
  rw [outcome_execute_compile accepted steps readable absolute, replies, Reply.scene] at fromReply
  constructor
  · rintro success rfl
    rw [success, if_pos rfl, Utf8.lenient_encode] at fromReply
    cases decoded : Scene.decode text with
    | error fault =>
        simp only [decoded, Failure.ofFault] at fromFile fromReply
        refine ⟨fromFile.trans fromReply.symm, fun other => ?_, fun output => ?_⟩
        · simp [fromFile, decoded]
        · simp [fromFile, decoded]
    | ok scene =>
        simp only [decoded, Failure.ofFault] at fromFile fromReply
        have same := printout_eq (Stage.matches_ready settings (url.getD settings.compileUrl))
          (Stage.coherent_new _) ((Stage.coherent_new _).after .ready) rfl rfl scene steps
        refine ⟨?_, fun other => ?_, fun output => ?_⟩
        · rw [fromFile, fromReply, same]
        · simp [fromFile, decoded]
        · simp [fromFile, decoded, eq_comm]
  · intro refused
    simpa only [refused, Bool.false_eq_true, if_false] using fromReply

/-- A named ball comes from a file and from a compiler that answers every request. -/
theorem routes_agree_ball :
    let text := "\x7b\"bodies\":[\x7b\"shape\":\"circle\",\"position\":[1,2],\"name\":\"ball\"\x7d]\x7d"
    let surroundings : Surroundings :=
      { bytesOf := fun path => .ok (Utf8.encode (if path = "scene" then text else "ball"))
        post := fun _ _ => .received 201 (Utf8.encode text) }
    let compiling := ["compile", "source", "--url", "http://h/", "--steps=2"]
    Agree surroundings ["load", "scene", "--steps=2"] compiling text .default 2 ∧
      (Scene.decode text).isOk = true := by
  intro text surroundings compiling
  have absolute : Url.problem? "http://h/" = none := by rfl
  have readable : readText surroundings "source" = .ok "ball" := by
    simp only [readText, surroundings, bind, Except.bind, Utf8.strict?_encode]
    rfl
  have asksLoad : parse ["load", "scene", "--steps=2"] = some (.run ⟨none, 2, .load "scene"⟩) := rfl
  have asksCompile : parse compiling =
      some (.run ⟨none, 2, .compile "source" (some "http://h/")⟩) := rfl
  refine ⟨?_, by decide +kernel⟩
  exact (routes_agree asksLoad asksCompile rfl rfl readable absolute rfl).1 rfl rfl

end CommandLine

end PhysicsScene
