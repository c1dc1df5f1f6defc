import Mathlib

/-! A lock with one holder: whoever is in a locked section is the client that holds it. -/

namespace VehicleRunner.Foundation

universe u
variable {Client : Type u} {holder : Option Client} {inside after : Client → Prop} {client : Client}

/-- The clients inside are those that hold the lock: one, or none. -/
def Exclusive (holder : Option Client) (inside : Client → Prop) : Prop :=
  ∀ client, inside client ↔ holder = some client

namespace Exclusive

theorem one (exclusive : Exclusive holder inside) {other : Client} (first : inside client)
    (second : inside other) : client = other :=
  Option.some.inj (((exclusive client).mp first).symm.trans ((exclusive other).mp second))

/-- Nobody goes in or out. -/
theorem stay (exclusive : Exclusive holder inside) (same : ∀ other, after other ↔ inside other) :
    Exclusive holder after :=
  fun other => (same other).trans (exclusive other)

/-- A client takes the free lock. -/
theorem enter (exclusive : Exclusive none inside) (entered : after client)
    (others : ∀ other, other ≠ client → (after other ↔ inside other)) :
    Exclusive (some client) after := by
  intro other
  by_cases same : other = client
  · subst same
    exact iff_of_true entered rfl
  · have away : ¬ inside other := by
      intro inside
      cases (exclusive other).mp inside
    have still : ¬ after other := fun inside => away ((others other same).mp inside)
    exact iff_of_false still fun holds => same (Option.some.inj holds).symm

/-- The holder gives the lock back. -/
theorem leave (exclusive : Exclusive (some client) inside) (left : ¬ after client)
    (others : ∀ other, other ≠ client → (after other ↔ inside other)) : Exclusive none after := by
  intro other
  have away : ¬ after other := by
    intro still
    by_cases same : other = client
    · subst same
      exact left still
    · have inside := (others other same).mp still
      exact same (Option.some.inj ((exclusive other).mp inside)).symm
  exact iff_of_false away (by simp)

end Exclusive

end VehicleRunner.Foundation
