import VehicleRunner.Foundation.Transition

/-! Properties of whole runs: what holds in every state of one, what every failure
along one spares, and when a guard kept at each step is exactly what it takes. -/

namespace VehicleRunner.Foundation

universe u v w
variable {State : Type u} {Action : Type v} {Failure : Type w}
variable {Step : State → Action → State → Prop} {start final : State} {actions : List Action}

/-- It holds in every state the actions lead through, the first and the last included. -/
def Throughout (Step : State → Action → State → Prop) (start : State) (actions : List Action)
    (Holds : State → Prop) : Prop :=
  ∀ earlier later reached, actions = earlier ++ later → Run Step start earlier reached → Holds reached

/-- It holds of every step taken along the actions. -/
def EveryStep (Step : State → Action → State → Prop) (start : State) (actions : List Action)
    (Meets : State → Action → State → Prop) : Prop :=
  ∀ earlier action later before after, actions = earlier ++ action :: later →
    Run Step start earlier before → Step before action after → Meets before action after

/-- It holds of every action and the state it is met in, whether or not it can be taken there. -/
def AtEach (Step : State → Action → State → Prop) (start : State) (actions : List Action)
    (Meets : State → Action → Prop) : Prop :=
  ∀ earlier action later before, actions = earlier ++ action :: later →
    Run Step start earlier before → Meets before action

/-- A run that keeps a guard keeps it on the way to every state it passes. -/
theorem Run.guarded_prefix {step : State → Action → Option State} {Guard : State → Action → Prop}
    {earlier later : List Action} {reached : State}
    (guarded : Run (Guarded Guard (Takes step)) start (earlier ++ later) final)
    (run : Run (Takes step) start earlier reached) :
    Run (Guarded Guard (Takes step)) start earlier reached := by
  obtain ⟨middle, first, _⟩ := guarded.split
  have same := first.unguard.unique run
  subst same
  exact first

theorem Run.last {action : Action} (run : Run Step start (actions ++ [action]) final) :
    ∃ before, Run Step start actions before ∧ Step before action final := by
  generalize whole : actions ++ [action] = all at run
  cases run with
  | start => simp at whole
  | step earlier taken =>
    obtain ⟨rfl, same⟩ := List.append_inj' whole rfl
    cases same
    exact ⟨_, earlier, taken⟩

/-- Where each step changes what is observed of a state as a note of the action does,
a run is observed through its actions alone. -/
theorem Run.observed {Seen : Type w} {observe : State → Seen} {note : Seen → Action → Seen}
    (run : Run Step start actions final)
    (agrees : ∀ state action next, Step state action next → observe next = note (observe state) action) :
    observe final = actions.foldl note (observe start) := by
  induction run with
  | start => rfl
  | step _ taken ih => rw [agrees _ _ _ taken, ih, List.foldl_append, List.foldl_cons, List.foldl_nil]

/-- If keeping the guard keeps the invariant, and the first step that breaks the
guard breaks the property, the property holds throughout exactly the guarded runs. -/
theorem Run.throughout_iff {step : State → Action → Option State} {Guard : State → Action → Prop}
    {Kept Holds : State → Prop} (base : Kept start) (sound : ∀ state, Kept state → Holds state)
    (kept : ∀ state action next, Kept state → Guard state action → step state action = some next →
      Kept next)
    (broken : ∀ state action next, Kept state → ¬ Guard state action →
      step state action = some next → ¬ Holds next)
    (run : Run (Takes step) start actions final) :
    Throughout (Takes step) start actions Holds ↔
      Run (Guarded Guard (Takes step)) start actions final := by
  have carried {earlier : List Action} {reached : State}
      (guarded : Run (Guarded Guard (Takes step)) start earlier reached) : Kept reached :=
    guarded.invariant base fun state action next held taken =>
      kept state action next held taken.1 taken.2
  constructor
  · intro holds
    induction run with
    | start => exact .start
    | @step actions before action next earlier taken ih =>
      have guarded := ih fun front back reached split part =>
        holds front (back ++ [action]) reached (by rw [split, List.append_assoc]) part
      by_cases allowed : Guard before action
      · exact .step guarded ⟨allowed, taken⟩
      · have last := holds (actions ++ [action]) [] next (List.append_nil _).symm (.step earlier taken)
        exact absurd last (broken before action next (carried guarded) allowed taken)
  · intro guarded earlier later reached split part
    subst split
    exact sound reached (carried (guarded.guarded_prefix part))

/-! ## Steps that can fail -/

/-- The steps of a function that may fail instead. -/
def Succeeds (step : State → Action → Except Failure State) : State → Action → State → Prop :=
  fun state action next => step state action = .ok next

/-- A sequence carried out without a failure is a run. -/
theorem foldlM_run {step : State → Action → Except Failure State} {start final : State}
    {actions : List Action} (done : actions.foldlM step start = .ok final) :
    Run (Succeeds step) start actions final := by
  induction actions generalizing start with
  | nil =>
    cases done
    exact .start
  | cons action actions ih =>
    cases stepped : step start action with
    | error failure => simp [List.foldlM_cons, stepped, bind, Except.bind] at done
    | ok next =>
      simp only [List.foldlM_cons, stepped, bind, Except.bind] at done
      have head : Run (Succeeds step) start ([] ++ [action]) next := .step .start stepped
      exact head.trans (ih done)

/-- No action of the sequence is met by a failure of this kind. -/
def Never (step : State → Action → Except Failure State) (start : State) (actions : List Action)
    (Bad : Failure → Prop) : Prop :=
  AtEach (Succeeds step) start actions fun before action =>
    ∀ failure, step before action = .error failure → ¬ Bad failure

/-- Where a guard says exactly which steps fail badly, a run is spared exactly when
it keeps the guard as far as it goes. -/
theorem never_iff {step : State → Action → Except Failure State} {Bad : Failure → Prop}
    {Guard : State → Action → Prop}
    (exact : ∀ state action, Guard state action ↔
      ∀ failure, step state action = .error failure → ¬ Bad failure) :
    Never step start actions Bad ↔ AtEach (Succeeds step) start actions Guard := by
  constructor
  · intro spared earlier action later before split run
    exact (exact before action).mpr (spared earlier action later before split run)
  · intro guarded earlier action later before split run
    exact (exact before action).mp (guarded earlier action later before split run)

/-- A sequence whose actions never fail runs to its end. -/
theorem never_runs {step : State → Action → Except Failure State} {start : State} {actions : List Action}
    (spared : Never step start actions fun _ => True) : ∃ final, Run (Succeeds step) start actions final := by
  induction actions using List.reverseRecOn with
  | nil => exact ⟨start, .start⟩
  | append_singleton actions action ih =>
    obtain ⟨middle, run⟩ := ih fun earlier other later before split =>
      spared earlier other (later ++ [action]) before (by rw [split]; simp)
    cases stepped : step middle action with
    | ok next => exact ⟨next, .step run stepped⟩
    | error failure => exact absurd trivial (spared actions action [] middle rfl run failure stepped)

/-- The computation meets no failure of this kind, and a result of it has the property. -/
def Avoids {Value : Type u} (Bad : Failure → Prop) (computation : Except Failure Value)
    (Ensured : Value → Prop) : Prop :=
  match computation with
  | .ok value => Ensured value
  | .error failure => ¬ Bad failure

namespace Avoids

variable {Bad : Failure → Prop} {Value Other : Type u} {Ensured : Value → Prop}
variable {computation first : Except Failure Value}

/-- Where no failure is bad, nothing is asked of a computation. -/
theorem anything (computation : Except Failure Value) :
    Avoids (fun _ => False) computation fun _ => True := by
  cases computation with
  | ok value => trivial
  | error failure => exact id

theorem never (avoids : Avoids Bad computation Ensured) {failure : Failure}
    (failed : computation = .error failure) : ¬ Bad failure := by
  subst failed
  exact avoids

theorem ensured (avoids : Avoids Bad computation Ensured) {value : Value}
    (succeeded : computation = .ok value) : Ensured value := by
  subst succeeded
  exact avoids

theorem bind {rest : Value → Except Failure Other} {Last : Other → Prop}
    (avoids : Avoids Bad first Ensured) (others : ∀ value, Ensured value → Avoids Bad (rest value) Last) :
    Avoids Bad (first >>= rest) Last := by
  cases first with
  | ok value => exact others value avoids
  | error failure => exact avoids

end Avoids

end VehicleRunner.Foundation
