import PhysicsScene.Failure

/-!
# Outcomes of actions

`Action.outcome` is what an action gives on a state: a value or a failure, and the state after it.
Each way of making an action has one equation here, so that a proof about a concrete action
computes its outcome and never opens the monads below it. An action that fails keeps what it
changed before, so a sequence stops at its first failure in the state that was reached there.
-/

namespace PhysicsScene

namespace Action

variable {σ τ α β : Type}

/-- The answer of an action on a state, and the state after it. -/
def outcome (action : Action σ α) (state : σ) : Except Failure α × σ :=
  action.run.run state

@[simp]
theorem outcome_pure (value : α) (state : σ) :
    outcome (pure value) state = (.ok value, state) :=
  rfl

@[simp]
theorem outcome_throw (failure : Failure) (state : σ) :
    outcome (throw failure : Action σ α) state = (.error failure, state) :=
  rfl

@[simp]
theorem outcome_get (state : σ) : outcome get state = (.ok state, state) :=
  rfl

@[simp]
theorem outcome_modify (change : σ → σ) (state : σ) :
    outcome (modify change) state = (.ok (), change state) :=
  rfl

@[simp]
theorem outcome_bind (action : Action σ α) (next : α → Action σ β) (state : σ) :
    outcome (action >>= next) state =
      match action.outcome state with
      | (.ok value, after) => (next value).outcome after
      | (.error failure, after) => (.error failure, after) := by
  simp only [outcome, ExceptT.run_bind, StateT.run_bind]
  rcases action.run.run state with ⟨_ | _, _⟩ <;> rfl

@[simp]
theorem outcome_map (change : α → β) (action : Action σ α) (state : σ) :
    outcome (change <$> action) state =
      match action.outcome state with
      | (.ok value, after) => (.ok (change value), after)
      | (.error failure, after) => (.error failure, after) := by
  simp only [outcome, ExceptT.run_map, StateT.run_map]
  rcases action.run.run state with ⟨_ | _, _⟩ <;> rfl

/-- An action on a part answers as it does on the part alone, and only the part changes. -/
@[simp]
theorem outcome_onPart (part : σ → τ) (put : σ → τ → σ) (action : Action τ α) (state : σ) :
    outcome (action.onPart part put) state =
      ((action.outcome (part state)).1, put state (action.outcome (part state)).2) :=
  rfl

/-- A result that is at hand leaves the state alone. -/
@[simp]
theorem outcome_ofResult (result : Except Failure α) (state : σ) :
    outcome (liftM result) state = (result, state) := by
  cases result <;> rfl

/-- An action that cannot fail succeeds. -/
@[simp]
theorem outcome_ofState (action : StateM σ α) (state : σ) :
    outcome (liftM action) state = (.ok (action.run state).1, (action.run state).2) :=
  rfl

end Action

end PhysicsScene
