/-!
# Actions on a state

Registration and writing are actions that may fail; what they did to the state before the failure stays. `Keeps` says
that an action preserves a property of the state whether it fails or not, and the lemmas derive it from the parts of
an action.
-/

namespace Cratewright

/-- An action on a state that may fail, where a failure leaves the state as far as the action got. -/
abbrev Action (Failure State : Type) := EStateM Failure State

variable {Failure State Value Result : Type}

/-- An action in two steps ends with its first step if that fails. -/
theorem Action.bind_apply (first : Action Failure State Value) (second : Value → Action Failure State Result)
    (state : State) :
    (first >>= second) state =
      match first state with
      | .ok value next => second value next
      | .error failure next => .error failure next := by
  simp only [Bind.bind, EStateM.bind]
  cases first state <;> rfl

/-- An action in two steps that succeeds has succeeded in both. -/
theorem Action.ok_of_bind {first : Action Failure State Value} {second : Value → Action Failure State Result}
    {state after : State} {result : Result} (ran : (first >>= second) state = .ok result after) :
    ∃ value next, first state = .ok value next ∧ second value next = .ok result after := by
  rw [bind_apply] at ran
  cases here : first state with
  | error failure stopped =>
    rw [here] at ran
    cases ran
  | ok value next =>
    rw [here] at ran
    exact ⟨value, next, rfl, ran⟩

/-- An action in two steps that fails has failed in the first or, after that, in the second. -/
theorem Action.error_of_bind {first : Action Failure State Value} {second : Value → Action Failure State Result}
    {state after : State} {failure : Failure} (ran : (first >>= second) state = .error failure after) :
    first state = .error failure after ∨
      ∃ value next, first state = .ok value next ∧ second value next = .error failure after := by
  rw [bind_apply] at ran
  cases here : first state with
  | error stoppedBy stopped =>
    rw [here] at ran
    cases ran
    exact .inl rfl
  | ok value next =>
    rw [here] at ran
    exact .inr ⟨value, next, rfl, ran⟩

/-- Whether an action succeeds from a state. -/
def Action.succeeds (action : Action Failure State Value) (state : State) : Bool :=
  match action state with
  | .ok _ _ => true
  | .error _ _ => false

/-- An action succeeds from a state exactly when it has a value there. -/
theorem Action.succeeds_eq_true_iff {action : Action Failure State Value} {state : State} :
    action.succeeds state = true ↔ ∃ value after, action state = .ok value after := by
  rw [succeeds]
  cases action state <;> simp

/-- The failure of an action from a state, if it fails. -/
def Action.failure? (action : Action Failure State Value) (state : State) : Option Failure :=
  match action state with
  | .ok _ _ => none
  | .error failure _ => some failure

/-- An action has no failure from a state exactly when it has a value there. -/
theorem Action.failure?_eq_none_iff {action : Action Failure State Value} {state : State} :
    action.failure? state = none ↔ ∃ value after, action state = .ok value after := by
  rw [failure?]
  cases action state <;> simp

/-- The failure that is read off an action is the one that it ends with. -/
theorem Action.failure?_eq_some_iff {action : Action Failure State Value} {state : State} {failure : Failure} :
    action.failure? state = some failure ↔ ∃ after, action state = .error failure after := by
  rw [failure?]
  cases action state <;> simp

/-- The state after an action, failed or not. -/
def stateAfter : EStateM.Result Failure State Value → State
  | .ok _ state => state
  | .error _ state => state

/-- An action that succeeds ends in the state that is read off its outcome. -/
theorem Action.apply_of_succeeds {action : Action Failure State Unit} {state : State}
    (succeeds : action.succeeds state = true) : action state = .ok () (stateAfter (action state)) := by
  obtain ⟨_, after, run⟩ := succeeds_eq_true_iff.mp succeeds
  rw [run]
  rfl

/-- Whether an action preserves a property of the state. -/
def Keeps (property : State → Prop) (action : Action Failure State Value) : Prop :=
  ∀ state, property state → property (stateAfter (action state))

namespace Keeps

variable {property : State → Prop}

/-- Returning a value changes no state. -/
theorem pure (value : Value) : Keeps property (pure value : Action Failure State Value) :=
  fun _ holds => holds

/-- Failing changes no state. -/
theorem throw (failure : Failure) : Keeps property (throw failure : Action Failure State Value) :=
  fun _ holds => holds

/-- Reading the state changes nothing. -/
theorem get : Keeps property (get : Action Failure State State) := fun _ holds => holds

/-- A change of the state keeps what the change itself keeps. -/
theorem modify {change : State → State} (kept : ∀ state, property state → property (change state)) :
    Keeps property (modify change : Action Failure State PUnit) := kept

/-- An action in two steps keeps what both steps keep. -/
theorem bind {first : Action Failure State Value} {second : Value → Action Failure State Result}
    (kept : Keeps property first) (keptAfter : ∀ value, Keeps property (second value)) :
    Keeps property (first >>= second) := by
  intro state holds
  have after := kept state holds
  simp only [Bind.bind, EStateM.bind]
  split
  · rename_i value next run
    rw [run] at after
    exact keptAfter value next after
  · rename_i failure next run
    rw [run] at after
    exact after

end Keeps

end Cratewright
