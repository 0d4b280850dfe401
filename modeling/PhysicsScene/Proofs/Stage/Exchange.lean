import PhysicsScene.Proofs.Stage.Coherence
import PhysicsScene.Proofs.Stage.Disposal

/-!
# Compile requests in flight

A compile request leaves the stage free until its result arrives, so any number of requests may
wait while the host goes on, and the results arrive in any order. An `Exchange` is a stage with its
waiting requests, and a `Run` of it is one interleaving of host operations, requests and arrivals.
Every interleaving comes to the same as a run of the host alone that loads, in the order of
arrival, the scenes that arrived before the end. Which scenes these are can be read off the events:
only `dispose` ends a stage.
-/

namespace PhysicsScene

/-- A stage and the compile requests that were made for it. -/
structure Exchange where
  stage : Stage
  /-- The requests whose results have not arrived. -/
  waiting : List Nat
  /-- The number of requests made so far, which is the ticket of the next one. -/
  issued : Nat
  /-- What became of the requests whose results arrived, in the order of arrival. -/
  settled : List (Nat × Arrival)

namespace Exchange

/-- Something that happens to an exchange. -/
inductive Event where
  | host (operation : Operation)
  | request
  | arrival (ticket : Nat) (result : Except Failure Scene)

/-- A fresh stage without requests. -/
def start (settings : Settings) : Exchange :=
  { stage := .new settings, waiting := [], issued := 0, settled := [] }

/-- One event. The result of every waiting request may arrive at any time, and be anything. -/
inductive Step : Exchange → Event → Exchange → Prop
  | host {exchange : Exchange} {operation : Operation}
      (byHost : ∀ result, operation ≠ .arrive result) :
      Step exchange (.host operation)
        { exchange with stage := exchange.stage.after operation }
  | request {exchange : Exchange} :
      Step exchange .request
        { exchange with
          waiting := exchange.waiting ++ [exchange.issued]
          issued := exchange.issued + 1 }
  | arrival {exchange : Exchange} {ticket : Nat} {result : Except Failure Scene}
      {outcome : Arrival} {after : Stage} (waits : ticket ∈ exchange.waiting)
      (arrives : (Stage.arrive result).run exchange.stage = (outcome, after)) :
      Step exchange (.arrival ticket result)
        { exchange with
          stage := after
          waiting := exchange.waiting.erase ticket
          settled := exchange.settled ++ [(ticket, outcome)] }

/-- A list of events, one after the other. -/
inductive Run : Exchange → List Event → Exchange → Prop
  | nil {exchange : Exchange} : Run exchange [] exchange
  | cons {before between after : Exchange} {event : Event} {later : List Event}
      (step : Step before event between) (rest : Run between later after) :
      Run before (event :: later) after

theorem Run.split {before after : Exchange} {earlier later : List Event}
    (run : Run before (earlier ++ later) after) :
    ∃ between, Run before earlier between ∧ Run between later after := by
  induction earlier generalizing before with
  | nil => exact ⟨before, .nil, run⟩
  | cons event earlier ih =>
      cases run with
      | cons step rest =>
          rcases ih rest with ⟨between, first, last⟩
          exact ⟨between, .cons step first, last⟩

theorem Run.append {before between after : Exchange} {earlier later : List Event}
    (first : Run before earlier between) (last : Run between later after) :
    Run before (earlier ++ later) after := by
  induction first with
  | nil => exact last
  | cons step rest ih => exact .cons step (ih last)

theorem run_host (exchange : Exchange) {operations : List Operation}
    (byHost : ∀ operation ∈ operations, ∀ result, operation ≠ .arrive result) :
    Run exchange (operations.map .host)
      { exchange with stage := exchange.stage.run operations } := by
  induction operations generalizing exchange with
  | nil => exact .nil
  | cons operation later ih =>
      have first := byHost operation List.mem_cons_self
      have rest := fun other member => byHost other (List.mem_cons_of_mem operation member)
      exact .cons (.host first) (ih { exchange with stage := exchange.stage.after operation } rest)

/-- A transport during which the host does some operations. -/
def transport (operations : List Operation) (result : Except Failure Scene) :
    Action Stage Scene := do
  modify (·.run operations)
  (result : Except Failure Scene)

/-- A single compile request is an exchange: what it does at its end is its arrival. -/
theorem run_compile (settings : Settings) {operations : List Operation}
    (byHost : ∀ operation ∈ operations, ∀ result, operation ≠ .arrive result)
    (result : Except Failure Scene) :
    let compiled := (Stage.compile (transport operations result)).run (.new settings)
    Run (start settings) (.request :: (operations.map .host ++ [.arrival 0 result]))
      { stage := compiled.2, waiting := [], issued := 1, settled := [(0, compiled.1)] } := by
  have arrived : (Stage.compile (transport operations result)).run (.new settings) =
      (Stage.arrive result).run ((Stage.new settings).run operations) := by
    cases result <;> rfl
  intro compiled
  refine .cons .request ((run_host _ byHost).append (.cons (.arrival ?_ arrived.symm) .nil))
  exact List.mem_singleton_self 0

/-- What the arrival of a result does to a stage. -/
structure Settles (before : Stage) (result : Except Failure Scene) (outcome : Arrival)
    (after : Stage) : Prop where
  /-- A disposed stage discards a scene and a failure alike. -/
  discards : before.isDisposed = true → outcome = .discarded ∧ after = before
  fails : before.isDisposed = false → ∀ failure, result = .error failure →
    outcome = .failed failure ∧ after = before
  /-- A live stage loads a scene as the host would, and the load never fails. -/
  loads : before.isDisposed = false → ∀ scene, result = .ok scene →
    ∃ report, (Stage.load scene).outcome before = (.ok report, after) ∧ outcome = .loaded report

theorem settles_of_arrive {before after : Stage} {result : Except Failure Scene}
    {outcome : Arrival} (arrives : (Stage.arrive result).run before = (outcome, after)) :
    Settles before result outcome after := by
  rw [Stage.run_arrive] at arrives
  refine ⟨?_, ?_, ?_⟩
  · intro disposed
    rw [if_pos disposed] at arrives
    cases arrives
    exact ⟨rfl, rfl⟩
  · intro live failure failed
    subst failed
    rw [live] at arrives
    cases arrives
    exact ⟨rfl, rfl⟩
  · intro live scene compiled
    subst compiled
    rw [live] at arrives
    cases arrives
    refine ⟨before.playfield.summary scene, ?_, rfl⟩
    rw [Stage.outcome_load, live]
    rfl

/-- The host operations of a list of events, and a load for every scene that arrives in time. -/
def sequential (live : Bool) : List Event → List Operation
  | [] => []
  | .host operation :: later => operation :: sequential (live && !operation.ends) later
  | .request :: later => sequential live later
  | .arrival _ (.ok scene) :: later =>
      if live then .load scene :: sequential live later else sequential live later
  | .arrival _ (.error _) :: later => sequential live later

/-- An arrival is a load of the host, or nothing. -/
theorem run_sequential_arrival {before after : Stage} {result : Except Failure Scene}
    {outcome : Arrival} (arrives : (Stage.arrive result).run before = (outcome, after))
    (ticket : Nat) (later : List Event) :
    before.run (sequential (!before.isDisposed) (.arrival ticket result :: later)) =
      after.run (sequential (!after.isDisposed) later) := by
  have settles := settles_of_arrive arrives
  cases life : before.isDisposed with
  | true =>
      rcases settles.discards life with ⟨_, same⟩
      subst same
      cases result <;> simp [sequential, life]
  | false =>
      cases result with
      | error failure =>
          rcases settles.fails life failure rfl with ⟨_, same⟩
          subst same
          simp [sequential, life]
      | ok scene =>
          rcases settles.loads life scene rfl with ⟨report, loads, _⟩
          have moved : before.after (.load scene) = after := by
            rw [Stage.outcome_load, life] at loads
            rw [Stage.after_of_live life]
            exact congrArg Prod.snd loads
          -- A load does not end the stage, so the flag stays up for the later events.
          have alive := Stage.isDisposed_after before (.load scene)
          rw [moved, life] at alive
          simp only [sequential, Bool.not_false, if_true, alive, Operation.ends, Bool.or_self]
          rw [← moved]
          rfl

/-- The stage of an exchange goes the same way without the requests. -/
theorem Run.stage_eq {before after : Exchange} {events : List Event}
    (run : Run before events after) :
    after.stage = before.stage.run (sequential (!before.stage.isDisposed) events) := by
  induction run with
  | nil => rfl
  | cons step rest ih =>
      cases step with
      | host byHost =>
          rw [ih, Stage.isDisposed_after, Bool.not_or]
          rfl
      | request => exact ih
      | arrival waits arrives => exact ih.trans (run_sequential_arrival arrives _ _).symm

/-- What every interleaving of requests with a host comes to. -/
structure Serializes (settings : Settings) (events : List Event) (final : Exchange) : Prop where
  /-- The host and the loads of the scenes that arrived in time, in this order, do the same. -/
  stage_eq : final.stage = (Stage.new settings).run (sequential true events)
  /-- Every arrival is one step on the stage that it finds. -/
  settles : ∀ earlier ticket result later, events = earlier ++ .arrival ticket result :: later →
    ∃ before after outcome, Run (start settings) earlier before ∧ Run after later final ∧
      after.settled = before.settled ++ [(ticket, outcome)] ∧
      Settles before.stage result outcome after.stage
  /-- After an end no arrival puts a body or a name back. -/
  stays_empty : ∀ earlier later, events = earlier ++ .host .dispose :: later →
    ∃ before, Run (start settings) earlier before ∧
      final.stage.isDisposed = true ∧ final.stage.simulation.world.members = [] ∧
      final.stage.playfield.bindings = before.stage.playfield.bindings ∧
      ∀ handle, final.stage.simulation.world.body? handle =
        before.stage.simulation.world.body? handle

/-- Every interleaving of any number of requests with a host is as good as a run of the host. -/
theorem serializes_of_run {settings : Settings} {events : List Event} {final : Exchange}
    (run : Run (start settings) events final) : Serializes settings events final := by
  refine ⟨run.stage_eq, ?_, ?_⟩
  · intro earlier ticket result later decomposed
    subst decomposed
    rcases run.split with ⟨before, first, last⟩
    cases last with
    | cons step rest =>
        cases step with
        | arrival waits arrives =>
            exact ⟨before, _, _, first, rest, rfl, settles_of_arrive arrives⟩
  · intro earlier later decomposed
    subst decomposed
    rcases run.split with ⟨before, first, last⟩
    have coherent : final.stage.Coherent := by
      rw [run.stage_eq]
      exact (Stage.coherent_new settings).run _
    -- From here on the exchange is a run of a disposed stage, whatever arrives in it.
    have ended : final.stage = before.stage.dispose.run (sequential false later) := by
      rw [last.stage_eq, sequential, Operation.ends, Bool.not_true, Bool.and_false]
      rfl
    have remains := before.stage.remains_run_dispose (sequential false later)
    rw [← ended] at remains
    have disposed : final.stage.isDisposed = true := decide_eq_true remains.phase_eq
    exact ⟨before, first, disposed, coherent.simulation.released remains.phase_eq,
      remains.bindings_eq, remains.body?_eq⟩

/-- Two requests overlap. The second result brings a body with a name; the first one brings another
after the end, which takes the body out, and neither of the two comes into the world again. -/
theorem serializes_overlap :
    let ball (name : String) : SceneEntry :=
      .plan
        { shape := some "circle", position := some ⟨3, 4⟩, name := some name
          options := BodyOptions.none }
    let scene (name : String) := { Scene.empty with bodies := some [ball name] }
    let events := [.request, .request, .host .ready, .arrival 1 (.ok (scene "early")),
      .host .dispose, .arrival 0 (.ok (scene "late"))]
    let held := (Stage.new .default).run [.ready, .load (scene "early")]
    ∃ final, Run (start .default) events final ∧ Serializes .default events final ∧
      final.stage = held.after .dispose ∧ final.settled.map (·.1) = [1, 0] ∧
      held.simulation.world.members = [⟨0⟩] ∧ final.stage.simulation.world.members = [] ∧
      final.stage.playfield.bindings.entries = [("early", ⟨0⟩)] ∧
      final.stage.simulation.world.bodies.size = 1 := by
  intro ball scene events held
  have run : ∃ final, Run (start .default) events final ∧ final.settled.map (·.1) = [1, 0] := by
    refine ⟨_, .cons .request (.cons .request (.cons (.host nofun)
      (.cons (.arrival ?_ rfl) (.cons (.host nofun) (.cons (.arrival ?_ rfl) .nil))))), ?_⟩
    · decide
    · decide
    · rfl
  rcases run with ⟨final, run, tickets⟩
  have serializes := serializes_of_run run
  have same : final.stage = held.after .dispose := serializes.stage_eq
  refine ⟨final, run, serializes, same, tickets, by decide +kernel, ?_⟩
  rw [same]
  decide +kernel

end Exchange

end PhysicsScene
