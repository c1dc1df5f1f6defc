import VehicleRunner.Foundation.Transition

/-! What a broadcast over lossy links is for: each writer keeps a log, and each reader
goes forward in every log, free to skip entries but never to turn back. -/

namespace VehicleRunner.Foundation

universe u v w
variable {Writer : Type u} {Reader : Type v} {Item : Type w}

/-- The logs, and the positions each reader has read in each. -/
structure Bulletin (Writer : Type u) (Reader : Type v) (Item : Type w) where
  log : Writer → List Item
  read : Reader → Writer → List Nat

namespace Bulletin

def empty : Bulletin Writer Reader Item := ⟨fun _ => [], fun _ _ => []⟩

inductive Move (Writer : Type u) (Reader : Type v) (Item : Type w) where
  | write (writer : Writer) (item : Item)
  | read (reader : Reader) (writer : Writer) (position : Nat)

def write [DecidableEq Writer] (writer : Writer) (item : Item) (bulletin : Bulletin Writer Reader Item) :
    Bulletin Writer Reader Item :=
  { bulletin with log := Function.update bulletin.log writer (bulletin.log writer ++ [item]) }

def readAt [DecidableEq Writer] [DecidableEq Reader] (reader : Reader) (writer : Writer) (position : Nat)
    (bulletin : Bulletin Writer Reader Item) : Bulletin Writer Reader Item :=
  { bulletin with
    read := Function.update bulletin.read reader
      (Function.update (bulletin.read reader) writer (bulletin.read reader writer ++ [position])) }

/-- A reader reads an entry that is there, behind all it has read of that log. -/
def step [DecidableEq Writer] [DecidableEq Reader] (bulletin : Bulletin Writer Reader Item) :
    Move Writer Reader Item → Option (Bulletin Writer Reader Item)
  | .write writer item => some (bulletin.write writer item)
  | .read reader writer position =>
    if position < (bulletin.log writer).length ∧ ∀ earlier ∈ bulletin.read reader writer, earlier < position then
      some (bulletin.readAt reader writer position)
    else none

/-- The entries a reader has read of a log. -/
def items (bulletin : Bulletin Writer Reader Item) (reader : Reader) (writer : Writer) : List Item :=
  (bulletin.read reader writer).filterMap fun position => (bulletin.log writer)[position]?

/-- Every reader has gone forward. -/
def Orderly (bulletin : Bulletin Writer Reader Item) : Prop :=
  ∀ reader writer, (bulletin.read reader writer).Pairwise (· < ·)

variable [DecidableEq Writer] [DecidableEq Reader]

theorem readAt_read (reader other : Reader) (writer another : Writer) (position : Nat)
    (bulletin : Bulletin Writer Reader Item) :
    (bulletin.readAt reader writer position).read other another =
      if other = reader ∧ another = writer then bulletin.read reader writer ++ [position]
      else bulletin.read other another := by
  by_cases same : other = reader
  · subst same
    by_cases alike : another = writer
    · subst alike
      simp [readAt]
    · simp [readAt, alike]
  · simp [readAt, same]

theorem Orderly.step {bulletin next : Bulletin Writer Reader Item} {move : Move Writer Reader Item}
    (orderly : bulletin.Orderly) (taken : bulletin.step move = some next) : next.Orderly := by
  cases move with
  | write writer item =>
    cases taken
    exact orderly
  | read reader writer position =>
    obtain ⟨allowed, moved⟩ := Option.ite_none_right_eq_some.mp taken
    cases moved
    intro other another
    rw [readAt_read]
    split
    · refine List.pairwise_append.mpr ⟨orderly reader writer, List.pairwise_singleton _ _, ?_⟩
      intro earlier member last single
      rw [List.mem_singleton.mp single]
      exact allowed.2 earlier member
    · exact orderly other another

/-- No reader ever turns back. -/
theorem run_orderly {moves : List (Move Writer Reader Item)} {bulletin : Bulletin Writer Reader Item}
    (run : Run (Takes step) empty moves bulletin) : bulletin.Orderly :=
  run.invariant (fun _ _ => .nil) fun _ _ _ orderly taken => orderly.step taken

end Bulletin

/-! ## Reading as early as possible -/

variable {log longer read : List Item} {positions : List Nat}

/-- The positions spell the entries read, each at the first place it can stand. -/
structure Earliest (log read : List Item) (positions : List Nat) : Prop where
  spells : positions.filterMap (fun position => log[position]?) = read
  inside : ∀ position ∈ positions, position < log.length
  first : ∀ limit, read.Sublist (log.take limit) → ∀ position ∈ positions, position < limit

theorem Earliest.nothing (log : List Item) : Earliest log [] [] := ⟨rfl, nofun, fun _ _ => nofun⟩

/-- Longer logs hold no earlier place. -/
theorem Earliest.grow (earliest : Earliest log read positions) (grown : log <+: longer) :
    Earliest longer read positions := by
  obtain ⟨more, rfl⟩ := grown
  refine ⟨?_, ?_, ?_⟩
  · rw [← earliest.spells]
    apply List.filterMap_congr
    intro position member
    exact List.getElem?_append_left (earliest.inside position member)
  · intro position member
    rw [List.length_append]
    exact Nat.lt_add_right _ (earliest.inside position member)
  · intro limit within position member
    by_cases short : limit ≤ log.length
    · rw [List.take_append_of_le_length short] at within
      exact earliest.first limit within position member
    · exact Nat.lt_trans (earliest.inside position member) (Nat.lt_of_not_le short)

/-- What is read next of a log can be read behind everything read so far. -/
theorem Earliest.next (earliest : Earliest log read positions) {item : Item}
    (contained : (read ++ [item]).Sublist log) :
    ∃ position, position < log.length ∧ (∀ earlier ∈ positions, earlier < position) ∧
      Earliest log (read ++ [item]) (positions ++ [position]) := by
  classical
  -- The shortest part of the log with all of it ends with the item.
  have enough : ∃ limit, (read ++ [item]).Sublist (log.take limit) :=
    ⟨log.length, by rwa [List.take_length]⟩
  have least := Nat.find_spec enough
  have shorter (limit : Nat) (contains : (read ++ [item]).Sublist (log.take limit)) :
      Nat.find enough ≤ limit := Nat.find_min' enough contains
  cases size : Nat.find enough with
  | zero => simp [size] at least
  | succ position =>
    rw [size] at least shorter
    rw [List.take_add_one] at least
    cases found : log[position]? with
    | none =>
      rw [found, Option.toList_none, List.append_nil] at least
      exact absurd (shorter position least) (Nat.not_succ_le_self position)
    | some entry =>
      rw [found, Option.toList_some] at least
      obtain ⟨front, back, split, before, last⟩ := List.sublist_append_iff.mp least
      rcases List.sublist_singleton.mp last with rfl | rfl
      · rw [List.append_nil] at split
        exact absurd (shorter position (split ▸ before)) (Nat.not_succ_le_self position)
      · obtain ⟨rfl, same⟩ := List.append_inj' split rfl
        cases same
        have behind := earliest.first position before
        refine ⟨position, (List.getElem?_eq_some_iff.mp found).1, behind, ?_, ?_, ?_⟩
        · simp [earliest.spells, found]
        · intro place member
          rcases List.mem_append.mp member with old | new
          · exact earliest.inside place old
          · rw [List.mem_singleton.mp new]
            exact (List.getElem?_eq_some_iff.mp found).1
        · intro limit contains place member
          have reached := shorter limit contains
          rcases List.mem_append.mp member with old | new
          · exact Nat.lt_trans (behind place old) reached
          · rw [List.mem_singleton.mp new]
            exact reached

end VehicleRunner.Foundation
