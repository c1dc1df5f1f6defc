import Mathlib

/-! Bit-serial, most-significant-bit-first shift registers with feedback: the
division circuit behind a cyclic redundancy check. The feedback mask holds the
generator without its leading term. Nothing here fixes a width or a generator. -/

namespace VehicleRunner.Foundation.BitRegister

variable {w : Nat}

/-- Shift one message bit into the register. -/
def feedBit (mask register : BitVec w) (bit : Bool) : BitVec w :=
  if register.msb ^^ bit then (register <<< 1) ^^^ mask else register <<< 1

/-- Shift a whole bit string into the register. -/
def feed (mask register : BitVec w) (bits : List Bool) : BitVec w :=
  bits.foldl (feedBit mask) register

@[simp] theorem feed_nil (mask register : BitVec w) : feed mask register [] = register := rfl

@[simp] theorem feed_cons (mask register : BitVec w) (bit : Bool) (bits : List Bool) :
    feed mask register (bit :: bits) = feed mask (feedBit mask register bit) bits := rfl

theorem feed_append (mask register : BitVec w) (front back : List Bool) :
    feed mask register (front ++ back) = feed mask (feed mask register front) back :=
  List.foldl_append

/-! ## Linearity -/

private theorem xor_cancel (first second mask : BitVec w) :
    (first ^^^ mask) ^^^ (second ^^^ mask) = first ^^^ second := by
  rw [BitVec.xor_assoc, BitVec.xor_comm mask, BitVec.xor_assoc, BitVec.xor_self, BitVec.xor_zero]

/-- Feeding is linear over exclusive or, in the register and the bit together. -/
theorem feedBit_xor (mask first second : BitVec w) (bit other : Bool) :
    feedBit mask (first ^^^ second) (bit ^^ other) =
      feedBit mask first bit ^^^ feedBit mask second other := by
  have carry : ((first ^^^ second).msb ^^ (bit ^^ other)) =
      ((first.msb ^^ bit) ^^ (second.msb ^^ other)) := by
    rw [BitVec.msb_xor]
    cases first.msb <;> cases second.msb <;> cases bit <;> cases other <;> rfl
  unfold feedBit
  rw [carry, BitVec.shiftLeft_xor_distrib]
  cases first.msb ^^ bit <;> cases second.msb ^^ other
  · rfl
  · exact BitVec.xor_assoc _ _ _
  · simp only [Bool.true_xor, Bool.not_false, ↓reduceIte, Bool.false_eq_true]
    rw [BitVec.xor_assoc, BitVec.xor_assoc, BitVec.xor_comm (second <<< 1)]
  · exact (xor_cancel _ _ _).symm

theorem feed_xor (mask first second : BitVec w) (bits others : List Bool)
    (aligned : bits.length = others.length) :
    feed mask (first ^^^ second) (List.zipWith xor bits others) =
      feed mask first bits ^^^ feed mask second others := by
  induction bits generalizing first second others with
  | nil =>
    have empty : others = [] := List.eq_nil_of_length_eq_zero aligned.symm
    subst others
    rfl
  | cons bit bits ih =>
    cases others with
    | nil => simp at aligned
    | cons other others =>
      simp only [List.zipWith_cons_cons, feed_cons, feedBit_xor]
      exact ih _ _ others (Nat.succ_injective aligned)

@[simp] theorem feedBit_zero (mask : BitVec w) : feedBit mask 0#w false = 0#w := by
  simp [feedBit]

/-- Leading zero bits leave an empty register empty. -/
theorem feed_zeros (mask : BitVec w) (count : Nat) :
    feed mask 0#w (List.replicate count false) = 0#w := by
  induction count with
  | zero => rfl
  | succ count ih => rw [List.replicate_succ, feed_cons, feedBit_zero, ih]

/-! ## Injectivity: what trailing zero bits cannot erase -/

private theorem shiftLeft_low (register : BitVec w) : (register <<< 1).getLsbD 0 = false := by
  simp

private theorem eq_zero_of_shiftLeft {register : BitVec w} (clear : register.msb = false)
    (zero : register <<< 1 = 0#w) : register = 0#w := by
  apply BitVec.eq_of_getLsbD_eq
  intro index inside
  by_cases last : index + 1 < w
  · have moved : (register <<< 1).getLsbD (index + 1) = register.getLsbD index := by
      rw [BitVec.getLsbD_shiftLeft, Nat.add_sub_cancel]
      simp only [last, decide_true, Bool.true_and, Nat.not_lt_of_le (Nat.le_add_left 1 index),
        decide_false, Bool.not_false]
    rw [← moved, zero]
    simp
  · have top : index = w - 1 := by omega
    rw [BitVec.msb_eq_getLsbD_last] at clear
    simpa [top] using clear

/-- A generator with a constant term never shifts a nonzero register to zero. -/
theorem feedBit_ne_zero {mask register : BitVec w} (constant : mask.getLsbD 0 = true)
    (nonzero : register ≠ 0#w) : feedBit mask register false ≠ 0#w := by
  intro zero
  unfold feedBit at zero
  rw [Bool.xor_false] at zero
  split at zero
  · have same : register <<< 1 = mask := by
      have cancelled := congrArg (· ^^^ mask) zero
      simpa [BitVec.xor_assoc] using cancelled
    rw [← same, shiftLeft_low] at constant
    cases constant
  · rename_i clear
    exact nonzero (eq_zero_of_shiftLeft (by simpa using clear) zero)

theorem feed_zeros_ne_zero {mask register : BitVec w} (constant : mask.getLsbD 0 = true)
    (nonzero : register ≠ 0#w) (count : Nat) :
    feed mask register (List.replicate count false) ≠ 0#w := by
  induction count generalizing register with
  | zero => exact nonzero
  | succ count ih =>
    rw [List.replicate_succ, feed_cons]
    exact ih (feedBit_ne_zero constant nonzero)

/-! ## Short bursts -/

/-- Some bit at or below `limit` is set. -/
def LowBit (limit : Nat) (register : BitVec w) : Prop :=
  ∃ index ≤ limit, register.getLsbD index = true

theorem LowBit.ne_zero {limit : Nat} {register : BitVec w} (low : LowBit limit register) :
    register ≠ 0#w := by
  rintro rfl
  obtain ⟨index, _, set⟩ := low
  simp at set

/-- The lowest set bit climbs at most one place a step, until it reaches the top. -/
theorem LowBit.feedBit {mask register : BitVec w} (constant : mask.getLsbD 0 = true)
    {limit : Nat} (room : limit + 1 < w) (low : LowBit limit register) (bit : Bool) :
    LowBit (limit + 1) (feedBit mask register bit) := by
  obtain ⟨index, bounded, set⟩ := low
  unfold BitRegister.feedBit
  split
  · refine ⟨0, Nat.zero_le _, ?_⟩
    rw [BitVec.getLsbD_xor, shiftLeft_low, constant]
    rfl
  · refine ⟨index + 1, by omega, ?_⟩
    have inside : index + 1 < w := by omega
    simp [inside, set]

theorem LowBit.feed {mask : BitVec w} (constant : mask.getLsbD 0 = true) (bits : List Bool) :
    ∀ {limit : Nat} {register : BitVec w}, limit + bits.length < w →
      LowBit limit register → LowBit (limit + bits.length) (feed mask register bits) := by
  induction bits with
  | nil => intro limit register _ low; exact low
  | cons bit bits ih =>
    intro limit register room low
    rw [List.length_cons] at room ⊢
    have stepped := low.feedBit constant (by omega) bit
    have advanced := ih (by omega) stepped
    rw [feed_cons, show limit + (bits.length + 1) = limit + 1 + bits.length by omega]
    exact advanced

theorem feedBit_zero_true (mask : BitVec w) : feedBit mask 0#w true = mask := by
  simp [feedBit]

/-- A nonzero pattern whose set bits all lie within `limit` consecutive ones. -/
def Burst (limit : Nat) (bits : List Bool) : Prop :=
  ∃ before burst after,
    bits = List.replicate before false ++ burst ++ List.replicate after false ∧
      burst.length ≤ limit ∧ true ∈ burst

/-- A nonzero error confined to as many consecutive bits as the register has
always leaves a nonzero register. -/
theorem feed_burst_ne_zero {mask : BitVec w} (constant : mask.getLsbD 0 = true)
    {bits : List Bool} (confined : Burst w bits) : feed mask 0#w bits ≠ 0#w := by
  obtain ⟨before, burst, after, rfl, short, nonzero⟩ := confined
  obtain ⟨lead, rest, split, clear⟩ := List.eq_append_cons_of_mem nonzero
  -- Before the first flipped bit the register is still empty.
  have leading : lead = List.replicate lead.length false := by
    apply List.eq_replicate_iff.mpr
    refine ⟨rfl, ?_⟩
    intro bit member
    cases bit with
    | false => rfl
    | true => exact absurd member clear
  have enough : 0 + rest.length < w := by
    have counted := congrArg List.length split
    simp only [List.length_append, List.length_cons] at counted
    omega
  have first : LowBit 0 mask := ⟨0, Nat.le_refl _, constant⟩
  have kept := (first.feed constant rest enough).ne_zero
  rw [split, leading, feed_append, feed_append, feed_append, feed_zeros, feed_zeros, feed_cons,
    feedBit_zero_true]
  exact feed_zeros_ne_zero constant kept after

/-! ## Parity -/

/-- Parity of the first `count` bits of a sequence. -/
def parityBelow (bits : Nat → Bool) : Nat → Bool
  | 0 => false
  | count + 1 => parityBelow bits count ^^ bits count

/-- Parity of the number of set bits. -/
def parity (register : BitVec w) : Bool := parityBelow register.getLsbD w

theorem parityBelow_xor (first second : Nat → Bool) (count : Nat) :
    parityBelow (fun index => first index ^^ second index) count =
      (parityBelow first count ^^ parityBelow second count) := by
  induction count with
  | zero => rfl
  | succ count ih =>
    simp only [parityBelow, ih]
    cases parityBelow first count <;> cases parityBelow second count <;>
      cases first count <;> cases second count <;> rfl

theorem parityBelow_zero (count : Nat) : parityBelow (fun _ => false) count = false := by
  induction count with
  | zero => rfl
  | succ count ih => simp [parityBelow, ih]

theorem parityBelow_shift (bits : Nat → Bool) (count : Nat) :
    parityBelow (fun index => !decide (index < 1) && bits (index - 1)) (count + 1) =
      parityBelow bits count := by
  induction count with
  | zero => rfl
  | succ count ih =>
    rw [parityBelow, ih]
    simp [parityBelow]

theorem parityBelow_congr {first second : Nat → Bool} {count : Nat}
    (agree : ∀ index < count, first index = second index) :
    parityBelow first count = parityBelow second count := by
  induction count with
  | zero => rfl
  | succ count ih =>
    rw [parityBelow, parityBelow, agree count (Nat.lt_succ_self _),
      ih (fun index inside => agree index (Nat.lt_succ_of_lt inside))]

@[simp] theorem parity_zero : parity 0#w = false := by
  have empty : (0#w).getLsbD = fun _ => false := by
    funext index
    simp
  rw [parity, empty, parityBelow_zero]

theorem parity_xor (first second : BitVec w) :
    parity (first ^^^ second) = (parity first ^^ parity second) := by
  rw [parity, parity, parity, ← parityBelow_xor]
  congr 1
  funext index
  exact BitVec.getLsbD_xor

/-- A shift drops exactly the top bit from the parity. -/
theorem parity_shiftLeft (register : BitVec w) :
    parity (register <<< 1) = (parity register ^^ register.msb) := by
  cases w with
  | zero => simp [parity, parityBelow, BitVec.msb_eq_getLsbD_last]
  | succ count =>
    have moved : parity (register <<< 1) = parityBelow register.getLsbD count := by
      rw [← parityBelow_shift]
      apply parityBelow_congr
      intro index inside
      rw [BitVec.getLsbD_shiftLeft]
      simp only [inside, decide_true, Bool.true_and]
    rw [moved, parity, parityBelow, BitVec.msb_eq_getLsbD_last, Nat.add_sub_cancel, Bool.xor_assoc,
      Bool.xor_self, Bool.xor_false]

/-- The generator has evenly many terms once its leading one is counted. -/
theorem parity_feedBit {mask : BitVec w} (even : parity mask = true)
    (register : BitVec w) (bit : Bool) :
    parity (feedBit mask register bit) = (parity register ^^ bit) := by
  unfold feedBit
  cases top : register.msb <;> cases bit <;>
    simp [parity_xor, parity_shiftLeft, top, even]

theorem parity_feed {mask : BitVec w} (even : parity mask = true)
    (register : BitVec w) (bits : List Bool) :
    parity (feed mask register bits) =
      (parity register ^^ decide (bits.count true % 2 = 1)) := by
  induction bits generalizing register with
  | nil => simp
  | cons bit bits ih =>
    rw [feed_cons, ih, parity_feedBit even, Bool.xor_assoc]
    congr 1
    cases bit with
    | false => simp
    | true =>
      rw [List.count_cons_self]
      rcases Nat.mod_two_eq_zero_or_one (bits.count true) with parted | parted <;>
        simp [Nat.add_mod, parted]

/-- An error pattern of odd weight always leaves a nonzero register. -/
theorem feed_odd_ne_zero {mask : BitVec w} (even : parity mask = true) {bits : List Bool}
    (odd : bits.count true % 2 = 1) : feed mask 0#w bits ≠ 0#w := by
  intro zero
  have counted := parity_feed even 0#w bits
  rw [zero, parity_zero] at counted
  simp [odd] at counted

end VehicleRunner.Foundation.BitRegister
