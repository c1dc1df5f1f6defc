import VehicleRunner.Foundation.Transition

/-! A bounded buffer that overwrites its oldest element when full, together with
the history of what was pushed into it and popped from it. -/

namespace VehicleRunner.Foundation

universe u
variable {Item : Type u} {capacity : Nat}

/-- Oldest element first. -/
structure Ring (Item : Type u) (capacity : Nat) where
  items : List Item
  bounded : items.length ≤ capacity

namespace Ring

def empty : Ring Item capacity := ⟨[], Nat.zero_le _⟩

def isEmpty (ring : Ring Item capacity) : Bool := ring.items.isEmpty

/-- Append, dropping the oldest element when there is no room. -/
def pushBack (ring : Ring Item capacity) (item : Item) : Ring Item capacity where
  items := if ring.items.length < capacity then ring.items ++ [item] else (ring.items ++ [item]).tail
  bounded := by
    have bounded := ring.bounded
    split
    · simp only [List.length_append, List.length_singleton]; omega
    · simp only [List.length_tail, List.length_append, List.length_singleton]; omega

/-- The oldest element and the ring without it; nothing on an empty ring. -/
def popFront? (ring : Ring Item capacity) : Option (Item × Ring Item capacity) :=
  match held : ring.items with
  | [] => none
  | item :: rest => some (item, ⟨rest, by
      have bounded := ring.bounded
      rw [held, List.length_cons] at bounded
      omega⟩)

theorem isEmpty_iff (ring : Ring Item capacity) : ring.isEmpty = true ↔ ring.items = [] :=
  List.isEmpty_iff

theorem pushBack_room {ring : Ring Item capacity} (room : ring.items.length < capacity)
    (item : Item) : (ring.pushBack item).items = ring.items ++ [item] :=
  if_pos room

theorem pushBack_full {ring : Ring Item capacity} (full : ¬ ring.items.length < capacity)
    (item : Item) : (ring.pushBack item).items = (ring.items ++ [item]).tail :=
  if_neg full

/-- Either way the new content is a suffix of the old content and the element. -/
theorem pushBack_suffix (ring : Ring Item capacity) (item : Item) :
    (ring.pushBack item).items <:+ ring.items ++ [item] := by
  by_cases room : ring.items.length < capacity
  · rw [pushBack_room room]
  · rw [pushBack_full room]
    exact List.tail_suffix _

theorem popFront?_some {ring rest : Ring Item capacity} {item : Item}
    (popped : ring.popFront? = some (item, rest)) : ring.items = item :: rest.items := by
  unfold popFront? at popped
  split at popped
  · cases popped
  · rename_i held
    cases popped
    exact held

theorem popFront?_none {ring : Ring Item capacity} (stuck : ring.popFront? = none) :
    ring.items = [] := by
  unfold popFront? at stuck
  split at stuck
  · assumption
  · cases stuck

end Ring

/-- Everything pushed so far, and everything popped so far with its position
in the order of pushes. -/
structure History (Item : Type u) where
  pushed : List Item
  popped : List (Nat × Item)

namespace History

def empty : History Item := ⟨[], []⟩

/-- Positions popped so far, in the order of the pops. -/
def positions (history : History Item) : List Nat := history.popped.map Prod.fst

/-- Position of the ring's oldest element. -/
def first (history : History Item) (ring : Ring Item capacity) : Nat :=
  history.pushed.length - ring.items.length

def push (history : History Item) (item : Item) : History Item :=
  { history with pushed := history.pushed ++ [item] }

def pop (history : History Item) (ring : Ring Item capacity) (item : Item) : History Item :=
  { history with popped := history.popped ++ [(history.first ring, item)] }

/-- The ring is the tail of the pushes, pops ran through them in order, and every
element that left without being popped had `capacity` later pushes behind it. -/
structure Consistent (ring : Ring Item capacity) (history : History Item) : Prop where
  fits : ring.items.length ≤ history.pushed.length
  suffix : ring.items = history.pushed.drop (history.first ring)
  increasing : history.positions.Pairwise (· < ·)
  behind : ∀ entry ∈ history.popped, entry.1 < history.first ring
  genuine : ∀ entry ∈ history.popped, history.pushed[entry.1]? = some entry.2
  overrun : ∀ position < history.first ring,
    position ∈ history.positions ∨ position + capacity < history.pushed.length

theorem Consistent.empty : Consistent (Ring.empty : Ring Item capacity) History.empty where
  fits := Nat.le_refl _
  suffix := rfl
  increasing := .nil
  behind := by simp [History.empty]
  genuine := by simp [History.empty]
  overrun := by simp [History.empty, first]

theorem first_push_room {ring : Ring Item capacity} {history : History Item}
    (room : ring.items.length < capacity) (item : Item) :
    (history.push item).first (ring.pushBack item) = history.first ring := by
  simp [first, push, Ring.pushBack_room room]

theorem first_push_full {ring : Ring Item capacity} {history : History Item}
    (fits : ring.items.length ≤ history.pushed.length)
    (full : ¬ ring.items.length < capacity) (item : Item) :
    (history.push item).first (ring.pushBack item) = history.first ring + 1 := by
  simp only [first, push, Ring.pushBack_full full, List.length_append, List.length_tail,
    List.length_singleton, Nat.add_sub_cancel]
  omega

theorem first_le_push {ring : Ring Item capacity} {history : History Item}
    (fits : ring.items.length ≤ history.pushed.length) (item : Item) :
    history.first ring ≤ (history.push item).first (ring.pushBack item) := by
  by_cases room : ring.items.length < capacity
  · rw [first_push_room room]
  · rw [first_push_full fits room]
    exact Nat.le_succ _

theorem Consistent.push {ring : Ring Item capacity} {history : History Item}
    (valid : Consistent ring history) (item : Item) :
    Consistent (ring.pushBack item) (history.push item) := by
  have fits := valid.fits
  have later := first_le_push fits item
  have grown : (history.push item).pushed.length = history.pushed.length + 1 := by
    simp [History.push]
  refine ⟨?_, ?_, valid.increasing, ?_, ?_, ?_⟩
  · have shorter := (ring.pushBack_suffix item).length_le
    rw [List.length_append, List.length_singleton] at shorter
    omega
  · have kept : ring.items ++ [item] =
        (history.pushed ++ [item]).drop (history.first ring) := by
      have inside : history.first ring ≤ history.pushed.length := Nat.sub_le _ _
      rw [List.drop_append_of_le_length inside, ← valid.suffix]
    by_cases room : ring.items.length < capacity
    · rw [first_push_room room, Ring.pushBack_room room]
      exact kept
    · rw [first_push_full fits room, Ring.pushBack_full room, kept, List.tail_drop]
      rfl
  · intro entry member
    exact Nat.lt_of_lt_of_le (valid.behind entry member) later
  · intro entry member
    have present := valid.genuine entry member
    obtain ⟨inside, _⟩ := List.getElem?_eq_some_iff.mp present
    change (history.pushed ++ [item])[entry.1]? = some entry.2
    rw [List.getElem?_append_left inside, present]
  · intro position early
    rw [grown]
    by_cases room : ring.items.length < capacity
    · rw [first_push_room room] at early
      rcases valid.overrun position early with done | lost
      · exact .inl done
      · exact .inr (by omega)
    · rw [first_push_full fits room] at early
      have bounded := ring.bounded
      by_cases older : position < history.first ring
      · rcases valid.overrun position older with done | lost
        · exact .inl done
        · exact .inr (by omega)
      · -- The element this push evicts is the oldest of a full ring.
        right
        unfold first at early older
        omega

theorem first_pop {ring rest : Ring Item capacity} {history : History Item} {item : Item}
    (valid : Consistent ring history) (popped : ring.popFront? = some (item, rest)) :
    (history.pop ring item).first rest = history.first ring + 1 := by
  have held := congrArg List.length (Ring.popFront?_some popped)
  have fits := valid.fits
  rw [List.length_cons] at held
  simp only [first, pop]
  omega

theorem Consistent.pop {ring rest : Ring Item capacity} {history : History Item} {item : Item}
    (valid : Consistent ring history) (popped : ring.popFront? = some (item, rest)) :
    Consistent rest (history.pop ring item) := by
  have held := Ring.popFront?_some popped
  have moved := first_pop valid popped
  have front : history.pushed.drop (history.first ring) = item :: rest.items := by
    rw [← valid.suffix, held]
  refine ⟨?_, ?_, ?_, ?_, ?_, ?_⟩
  · have fits := valid.fits
    rw [held, List.length_cons] at fits
    exact Nat.le_of_succ_le fits
  · have tail := congrArg List.tail front
    rw [List.tail_drop] at tail
    rw [moved]
    exact tail.symm
  · simp only [positions, History.pop, List.map_append, List.map_cons, List.map_nil]
    refine List.pairwise_append.mpr ⟨valid.increasing, List.pairwise_singleton _ _, ?_⟩
    intro position member last single
    obtain ⟨entry, present, rfl⟩ := List.mem_map.mp member
    rw [List.mem_singleton.mp single]
    exact valid.behind entry present
  · intro entry member
    rw [moved]
    rcases List.mem_append.mp member with old | new
    · exact Nat.lt_succ_of_lt (valid.behind entry old)
    · rw [List.mem_singleton.mp new]
      exact Nat.lt_succ_self _
  · intro entry member
    rcases List.mem_append.mp member with old | new
    · exact valid.genuine entry old
    · rw [List.mem_singleton.mp new]
      change history.pushed[history.first ring]? = some item
      rw [← List.head?_drop, front]
      rfl
  · intro position early
    rw [moved] at early
    by_cases older : position < history.first ring
    · rcases valid.overrun position older with done | lost
      · exact .inl (by simp only [positions, History.pop, List.map_append]; exact List.mem_append_left _ done)
      · exact .inr lost
    · left
      have same : position = history.first ring := by omega
      simp [positions, History.pop, same]

/-- How a history and its ring may grow: no position already behind the ring is
popped any more. -/
structure Later (ring next : Ring Item capacity) (history grown : History Item) : Prop where
  first_le : history.first ring ≤ grown.first next
  more : ∃ entries, grown.popped = history.popped ++ entries ∧
    ∀ entry ∈ entries, history.first ring ≤ entry.1

theorem Later.refl (ring : Ring Item capacity) (history : History Item) :
    Later ring ring history history :=
  ⟨Nat.le_refl _, [], (List.append_nil _).symm, by simp⟩

theorem Later.trans {ring middle next : Ring Item capacity} {history between grown : History Item}
    (earlier : Later ring middle history between) (later : Later middle next between grown) :
    Later ring next history grown := by
  obtain ⟨entries, appended, above⟩ := earlier.more
  obtain ⟨others, extended, beyond⟩ := later.more
  refine ⟨Nat.le_trans earlier.first_le later.first_le, entries ++ others, ?_, ?_⟩
  · rw [extended, appended, List.append_assoc]
  · intro entry member
    rcases List.mem_append.mp member with old | new
    · exact above entry old
    · exact Nat.le_trans earlier.first_le (beyond entry new)

theorem Later.push {ring : Ring Item capacity} {history : History Item}
    (valid : Consistent ring history) (item : Item) :
    Later ring (ring.pushBack item) history (history.push item) :=
  ⟨first_le_push valid.fits item, [], (List.append_nil _).symm, by simp⟩

theorem Later.pop {ring rest : Ring Item capacity} {history : History Item} {item : Item}
    (valid : Consistent ring history) (popped : ring.popFront? = some (item, rest)) :
    Later ring rest history (history.pop ring item) := by
  refine ⟨?_, [(history.first ring, item)], rfl, ?_⟩
  · rw [first_pop valid popped]
    exact Nat.le_succ _
  · simp

/-- An element overrun before it was popped stays unpopped. -/
theorem Later.unpopped {ring next : Ring Item capacity} {history grown : History Item}
    (valid : Consistent ring history) (later : Later ring next history grown) {position : Nat}
    (overrun : position + capacity < history.pushed.length)
    (unpopped : position ∉ history.positions) : position ∉ grown.positions := by
  obtain ⟨entries, appended, above⟩ := later.more
  have fits := valid.fits
  have bounded := ring.bounded
  intro member
  rw [positions, appended, List.map_append] at member
  rcases List.mem_append.mp member with old | new
  · exact unpopped old
  · obtain ⟨entry, present, same⟩ := List.mem_map.mp new
    have beyond := above entry present
    unfold first at beyond
    omega

/-- Unpopped elements are either still held or already overrun. -/
theorem Consistent.unpopped {ring : Ring Item capacity} {history : History Item}
    (valid : Consistent ring history) {position : Nat} (unpopped : position ∉ history.positions) :
    history.first ring ≤ position ∨ position + capacity < history.pushed.length := by
  by_cases held : history.first ring ≤ position
  · exact .inl held
  · rcases valid.overrun position (Nat.lt_of_not_le held) with done | lost
    · exact absurd done unpopped
    · exact .inr lost

/-- Held elements have not been popped. -/
theorem Consistent.held {ring : Ring Item capacity} {history : History Item}
    (valid : Consistent ring history) {position : Nat} (held : history.first ring ≤ position) :
    position ∉ history.positions := by
  intro member
  obtain ⟨entry, present, same⟩ := List.mem_map.mp member
  have behind := valid.behind entry present
  omega

end History

end VehicleRunner.Foundation
