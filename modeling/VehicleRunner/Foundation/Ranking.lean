import VehicleRunner.Foundation.Transition

/-! Ranks on a step relation: how much one party of a run can still do, and how a run
that can always go on downwards comes to its end. -/

namespace VehicleRunner.Foundation

universe u v
variable {State : Type u} {Action : Type v} {Step : State → Action → State → Prop}
variable {start final : State} {actions : List Action}

/-- While the invariant holds, no step raises the rank, and the party pays one for each
step of its own. -/
structure Ranked (Step : State → Action → State → Prop) (Held : State → Prop) (own : Action → Bool)
    (rank : State → Nat) : Prop where
  kept : ∀ state action next, Held state → Step state action next → Held next
  pays : ∀ state action next, Held state → Step state action next →
    rank next + (own action).toNat ≤ rank state

variable {Held : State → Prop} {own : Action → Bool} {rank : State → Nat}

/-- In whatever else happens, the party takes no more steps than the rank it starts with. -/
theorem Ranked.spent (ranked : Ranked Step Held own rank) (held : Held start)
    (run : Run Step start actions final) : rank final + actions.countP own ≤ rank start := by
  induction run with
  | start => simp
  | @step actions before action next earlier taken ih =>
    have now : Held before := earlier.invariant held ranked.kept
    have pays := ranked.pays before action next now taken
    rw [List.countP_append, List.countP_singleton]
    cases mine : own action with
    | true =>
      simp only [mine, Bool.toNat_true, ↓reduceIte] at pays ⊢
      omega
    | false =>
      simp only [mine, Bool.toNat_false, Bool.false_eq_true, ↓reduceIte] at pays ⊢
      omega

/-- The party is never stuck before it is done. -/
def Lively (Step : State → Action → State → Prop) (Held Done : State → Prop) (own : Action → Bool) : Prop :=
  ∀ state, Held state → ¬ Done state → ∃ action next, own action = true ∧ Step state action next

/-- Where some run always leads on to a lower rank, a run leads to the end. -/
theorem Run.descends (rank : State → Nat) (Allowed : Action → Prop) {Done : State → Prop}
    (onward : ∀ state, Held state → ¬ Done state → ∃ actions next, Run Step state actions next ∧
      (∀ action ∈ actions, Allowed action) ∧ Held next ∧ rank next < rank state)
    (held : Held start) : ∃ actions final, Run Step start actions final ∧
      (∀ action ∈ actions, Allowed action) ∧ Held final ∧ Done final := by
  induction bound : rank start using Nat.strongRecOn generalizing start with
  | ind bound ih =>
    by_cases done : Done start
    · exact ⟨[], start, .start, by simp, held, done⟩
    · obtain ⟨first, middle, leads, allowed, kept, lower⟩ := onward start held done
      obtain ⟨rest, final, ends, others, last, reached⟩ := ih (rank middle) (bound ▸ lower) kept rfl
      refine ⟨first ++ rest, final, leads.trans ends, ?_, last, reached⟩
      intro action member
      rcases List.mem_append.mp member with early | late
      · exact allowed action early
      · exact others action late

/-- A lively party comes to its end by its own steps alone. -/
theorem Ranked.ends {Done : State → Prop} (ranked : Ranked Step Held own rank)
    (lively : Lively Step Held Done own) (held : Held start) :
    ∃ actions final, Run Step start actions final ∧ (∀ action ∈ actions, own action = true) ∧ Done final := by
  have onward (state : State) (held : Held state) (busy : ¬ Done state) :
      ∃ actions next, Run Step state actions next ∧ (∀ action ∈ actions, own action = true) ∧
        Held next ∧ rank next < rank state := by
    obtain ⟨action, next, mine, taken⟩ := lively state held busy
    have pays := ranked.pays state action next held taken
    rw [mine, Bool.toNat_true] at pays
    exact ⟨[action], next, .single taken, by simp [mine],
      ranked.kept state action next held taken, pays⟩
  obtain ⟨actions, final, run, allowed, _, done⟩ :=
    Run.descends rank (fun action => own action = true) onward held
  exact ⟨actions, final, run, allowed, done⟩

end VehicleRunner.Foundation
