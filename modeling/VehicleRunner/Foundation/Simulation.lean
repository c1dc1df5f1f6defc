import VehicleRunner.Foundation.Transition

/-! Two step relations over different states: what each step of the one is to the other. -/

namespace VehicleRunner.Foundation

universe u v w x
variable {State : Type u} {Action : Type v} {Abstract : Type w} {Move : Type x}
variable {Step : State → Action → State → Prop} {Moves : Abstract → Move → Abstract → Prop}

/-- Every step is matched by some moves, possibly none, that lead back into the relation. -/
def Simulates (Step : State → Action → State → Prop) (Moves : Abstract → Move → Abstract → Prop)
    (Related : State → Abstract → Prop) : Prop :=
  ∀ state action next abstract, Related state abstract → Step state action next →
    ∃ moves after, Run Moves abstract moves after ∧ Related next after

/-- Every run is then matched by a run. -/
theorem Run.simulated {Related : State → Abstract → Prop} (simulates : Simulates Step Moves Related)
    {start final : State} {actions : List Action} (run : Run Step start actions final)
    {abstract : Abstract} (related : Related start abstract) :
    ∃ moves reached, Run Moves abstract moves reached ∧ Related final reached := by
  induction run with
  | start => exact ⟨[], abstract, .start, related⟩
  | step _ taken ih =>
    obtain ⟨moves, middle, matched, still⟩ := ih
    obtain ⟨more, reached, onward, after⟩ := simulates _ _ _ _ still taken
    exact ⟨moves ++ more, reached, matched.trans onward, after⟩

/-- Every step is matched by the one move it stands for, or leads back into the relation
by itself. -/
def Projects (Step : State → Action → State → Prop) (Moves : Abstract → Move → Abstract → Prop)
    (serial : Action → Option Move) (Related : State → Abstract → Prop) : Prop :=
  ∀ state action next abstract, Related state abstract → Step state action next →
    ∃ after, Run Moves abstract (serial action).toList after ∧ Related next after

/-- Every run is then matched by the moves its actions stand for, in their order. -/
theorem Run.projected {Related : State → Abstract → Prop} {serial : Action → Option Move}
    (projects : Projects Step Moves serial Related) {start final : State} {actions : List Action}
    (run : Run Step start actions final) {abstract : Abstract} (related : Related start abstract) :
    ∃ reached, Run Moves abstract (actions.filterMap serial) reached ∧ Related final reached := by
  induction run with
  | start => exact ⟨abstract, .start, related⟩
  | @step actions before action next _ taken ih =>
    obtain ⟨middle, matched, still⟩ := ih
    obtain ⟨reached, onward, after⟩ := projects before action next middle still taken
    have projected : (actions ++ [action]).filterMap serial =
        actions.filterMap serial ++ (serial action).toList := by
      rw [List.filterMap_append]
      cases stands : serial action <;> simp [stands]
    rw [projected]
    exact ⟨reached, matched.trans onward, after⟩

end VehicleRunner.Foundation
