import Mathlib

/-! What a subscriber over a link that comes and goes is owed: topics served in every link
from the next one on, and topics served in the present link only. -/

namespace VehicleRunner.Foundation

universe u

/-- Down; up, with the topics kept not yet asked for again; or up and settled. -/
inductive Link where
  | down | rising | up
  deriving DecidableEq

structure Memory (Topic : Type u) where
  link : Link
  kept : Finset Topic
  fresh : Finset Topic
  deriving DecidableEq

namespace Memory

variable {Topic : Type u} [DecidableEq Topic]

def empty : Memory Topic := ⟨.down, ∅, ∅⟩

/-- A topic asked for while the link rises is asked for in that link only. -/
def ask (memory : Memory Topic) (topic : Topic) : Memory Topic :=
  if memory.link = .rising then { memory with fresh := insert topic memory.fresh }
  else { memory with kept := insert topic memory.kept }

def rise (memory : Memory Topic) : Memory Topic := { memory with link := .rising, fresh := ∅ }

def settle (memory : Memory Topic) : Memory Topic := { memory with link := .up }

/-- A link that falls before it settled leaves its topics among those kept. -/
def fall (memory : Memory Topic) : Memory Topic :=
  { link := .down
    kept := if memory.link = .rising then memory.kept ∪ memory.fresh else memory.kept
    fresh := ∅ }

def serves (memory : Memory Topic) (topic : Topic) : Bool :=
  match memory.link with
  | .down => false
  | .rising => topic ∈ memory.fresh
  | .up => topic ∈ memory.kept ∨ topic ∈ memory.fresh

inductive Change (Topic : Type u) where
  | ask (topic : Topic)
  | rise
  | settle
  | fall
  deriving DecidableEq

def change (memory : Memory Topic) : Change Topic → Memory Topic
  | .ask topic => memory.ask topic
  | .rise => memory.rise
  | .settle => memory.settle
  | .fall => memory.fall

/-- Nothing changes where the topic was asked for already. -/
theorem ask_known {memory : Memory Topic} {topic : Topic}
    (fresh : memory.link = .rising → topic ∈ memory.fresh)
    (kept : memory.link ≠ .rising → topic ∈ memory.kept) : memory.ask topic = memory := by
  rw [ask]
  split
  · rename_i rising
    rw [Finset.insert_eq_of_mem (fresh rising)]
  · rename_i settled
    rw [Finset.insert_eq_of_mem (kept settled)]

theorem ask_rising {memory : Memory Topic} (rising : memory.link = .rising) (topic : Topic) :
    memory.ask topic = { memory with fresh := insert topic memory.fresh } :=
  if_pos rising

theorem ask_kept {memory : Memory Topic} (settled : memory.link ≠ .rising) (topic : Topic) :
    memory.ask topic = { memory with kept := insert topic memory.kept } :=
  if_neg settled

/-- A topic once kept is kept. -/
theorem kept_change (memory : Memory Topic) (change : Change Topic) :
    memory.kept ⊆ (memory.change change).kept := by
  cases change with
  | ask topic =>
    rw [Memory.change, ask]
    split
    · exact subset_rfl
    · exact Finset.subset_insert _ _
  | fall =>
    rw [Memory.change, fall]
    split
    · exact Finset.subset_union_left
    · exact subset_rfl
  | _ => exact subset_rfl

theorem serves_up {memory : Memory Topic} (up : memory.link = .up) (topic : Topic) :
    memory.serves topic = true ↔ topic ∈ memory.kept ∨ topic ∈ memory.fresh := by
  simp [serves, up]

theorem serves_rising {memory : Memory Topic} (rising : memory.link = .rising) (topic : Topic) :
    memory.serves topic = true ↔ topic ∈ memory.fresh := by
  simp [serves, rising]

theorem serves_down {memory : Memory Topic} (down : memory.link = .down) (topic : Topic) :
    memory.serves topic = false := by
  simp [serves, down]

end Memory

end VehicleRunner.Foundation
