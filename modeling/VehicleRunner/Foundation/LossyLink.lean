import Mathlib

/-! A link that may lose entries of a log but never reorders or repeats them. -/

namespace VehicleRunner.Foundation

universe u
variable {Item : Type u} {log carried rest : List Item} {passed : Nat}

/-- What a link still carries, or has delivered, of a log whose first `passed`
entries have gone by. -/
def Carries (log : List Item) (passed : Nat) (carried : List Item) : Prop :=
  carried.Sublist (log.take passed)

theorem Carries.nothing (log : List Item) (passed : Nat) : Carries log passed [] :=
  List.nil_sublist _

/-- The log may grow. -/
theorem Carries.grow {longer : List Item} (carries : Carries log passed carried)
    (grown : log <+: longer) : Carries longer passed carried := by
  obtain ⟨more, rfl⟩ := grown
  rw [Carries, List.take_append]
  exact carries.trans (List.sublist_append_left _ _)

/-- An entry not gone by yet may arrive; those before it are passed over. -/
theorem Carries.arrive {index : Nat} {item : Item} (carries : Carries log passed carried)
    (later : passed ≤ index) (found : log[index]? = some item) :
    Carries log (index + 1) (carried ++ [item]) := by
  rw [Carries, List.take_add_one, found]
  exact List.Sublist.append (carries.trans (List.take_sublist_take_left later))
    (List.Sublist.refl _)

/-- Anything carried may be lost. -/
theorem Carries.lose (carries : Carries log passed carried) (fewer : rest.Sublist carried) :
    Carries log passed rest :=
  fewer.trans carries

/-- What comes out of the link is a subsequence of the log. -/
theorem Carries.sublist (carries : Carries log passed carried) : carried.Sublist log :=
  carries.trans (List.take_sublist _ _)

end VehicleRunner.Foundation
