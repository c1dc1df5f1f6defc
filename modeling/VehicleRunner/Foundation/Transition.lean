import Mathlib

/-! Labelled runs of a step relation, with the two induction rules every
protocol and loop proof below uses: an invariant carried along a run, and a run
of one relation matched by a run of another. -/

namespace VehicleRunner.Foundation

universe u v w
variable {State : Type u} {Action : Type v} {Other : Type w}

/-- A finite run from `start`, with its actions in the order they were taken. -/
inductive Run (Step : State → Action → State → Prop) (start : State) :
    List Action → State → Prop where
  | start : Run Step start [] start
  | step (earlier : Run Step start actions state) (taken : Step state action next) :
      Run Step start (actions ++ [action]) next

variable {Step : State → Action → State → Prop} {start : State}

/-- What holds at the start and survives every step holds in every state reached. -/
theorem Run.invariant {Holds : State → Prop} (run : Run Step start actions state)
    (base : Holds start)
    (preserved : ∀ state action next, Holds state → Step state action next → Holds next) :
    Holds state := by
  induction run with
  | start => exact base
  | step earlier taken ih => exact preserved _ _ _ ih taken

theorem Run.trans {middle : State} (first : Run Step start actions middle)
    (second : Run Step middle others state) : Run Step start (actions ++ others) state := by
  induction second with
  | start => simpa using first
  | step earlier taken ih =>
    rw [← List.append_assoc]
    exact .step ih taken

theorem Run.single (taken : Step start action state) : Run Step start [action] state :=
  .step .start taken

/-- Every run passes through a state after each initial part of its actions. -/
theorem Run.split {earlier later : List Action}
    (run : Run Step start (earlier ++ later) state) :
    ∃ middle, Run Step start earlier middle ∧ Run Step middle later state := by
  generalize whole : earlier ++ later = actions at run
  induction run generalizing later with
  | start =>
    obtain ⟨rfl, rfl⟩ := List.append_eq_nil_iff.mp whole
    exact ⟨start, .start, .start⟩
  | @step actions before action next taken last ih =>
    rcases List.eq_nil_or_concat later with rfl | ⟨rest, final, rfl⟩
    · rw [List.append_nil] at whole
      subst whole
      exact ⟨next, .step taken last, .start⟩
    · rw [List.concat_eq_append, ← List.append_assoc] at whole
      obtain ⟨front, back⟩ := List.append_inj' whole rfl
      cases back
      obtain ⟨middle, first, second⟩ := ih front
      exact ⟨middle, first, by rw [List.concat_eq_append]; exact .step second last⟩

/-- A run under a stronger step relation is a run. -/
theorem Run.mono {Stronger : State → Action → State → Prop}
    (run : Run Stronger start actions state)
    (weaker : ∀ state action next, Stronger state action next → Step state action next) :
    Run Step start actions state := by
  induction run with
  | start => exact .start
  | step earlier taken ih => exact .step ih (weaker _ _ _ taken)

/-- Steps of a relation that also meet a condition on the state before. -/
def Guarded (Guard : State → Action → Prop) (Step : State → Action → State → Prop) :
    State → Action → State → Prop :=
  fun state action next => Guard state action ∧ Step state action next

theorem Run.unguard {Guard : State → Action → Prop}
    (run : Run (Guarded Guard Step) start actions state) : Run Step start actions state :=
  run.mono fun _ _ _ taken => taken.2

/-- The steps of a partial step function. -/
def Takes (step : State → Action → Option State) : State → Action → State → Prop :=
  fun state action next => step state action = some next

/-- Execute a list of actions, stopping at the first that is not enabled. -/
def execute (step : State → Action → Option State) : State → List Action → Option State
  | state, [] => some state
  | state, action :: actions => (step state action).bind fun next => execute step next actions

theorem execute_append (step : State → Action → Option State) (state : State)
    (front back : List Action) :
    execute step state (front ++ back) =
      (execute step state front).bind fun middle => execute step middle back := by
  induction front generalizing state with
  | nil => rfl
  | cons action front ih =>
    simp only [List.cons_append, execute, Option.bind_assoc]
    congr 1
    funext next
    exact ih next

theorem execute_run {step : State → Action → Option State} :
    ∀ {actions : List Action} {state final : State},
      execute step state actions = some final → Run (Takes step) state actions final := by
  intro actions
  induction actions with
  | nil =>
    intro state final done
    cases done
    exact .start
  | cons action actions ih =>
    intro state final done
    obtain ⟨next, taken, rest⟩ := Option.bind_eq_some_iff.mp done
    have head : Run (Takes step) state ([] ++ [action]) next := .step .start taken
    exact head.trans (ih rest)

/-- A step function that refuses what its guard does not allow. -/
def guardStep (Guard : State → Action → Prop) [∀ state action, Decidable (Guard state action)]
    (step : State → Action → Option State) (state : State) (action : Action) : Option State :=
  if Guard state action then step state action else none

theorem execute_guarded {Guard : State → Action → Prop}
    [∀ state action, Decidable (Guard state action)] {step : State → Action → Option State}
    {actions : List Action} {final : State}
    (done : execute (guardStep Guard step) start actions = some final) :
    Run (Guarded Guard (Takes step)) start actions final := by
  apply (execute_run done).mono
  intro state action next taken
  have guarded : guardStep Guard step state action = some next := taken
  unfold guardStep at guarded
  split at guarded
  · exact ⟨by assumption, guarded⟩
  · cases guarded

theorem Run.executes {step : State → Action → Option State}
    (run : Run (Takes step) start actions state) : execute step start actions = some state := by
  induction run with
  | start => rfl
  | step _ taken ih =>
    have stepped : step _ _ = some _ := taken
    simp [execute_append, ih, execute, stepped]

/-- A step function's runs are determined by their actions. -/
theorem Run.unique {step : State → Action → Option State} {first second : State}
    (run : Run (Takes step) start actions first) (other : Run (Takes step) start actions second) :
    first = second :=
  Option.some.inj (run.executes.symm.trans other.executes)

end VehicleRunner.Foundation
