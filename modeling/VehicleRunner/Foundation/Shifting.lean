import VehicleRunner.Foundation.BitRegister

/-! A register that is shifted without input: how a difference in it moves on, when it
comes back to what it was, and so which two flipped bits cancel. -/

namespace VehicleRunner.Foundation.BitRegister

variable {w : Nat}

def shift (mask register : BitVec w) : BitVec w := feedBit mask register false

theorem shift_xor (mask first second : BitVec w) :
    shift mask (first ^^^ second) = shift mask first ^^^ shift mask second :=
  feedBit_xor mask first second false false

/-- A generator with a constant term loses nothing of the register. -/
theorem shift_injective {mask : BitVec w} (constant : mask.getLsbD 0 = true) :
    Function.Injective (shift mask) := by
  intro first second same
  by_contra different
  have apart : first ^^^ second ≠ 0#w := fun zero => different (BitVec.xor_eq_zero_iff.mp zero)
  apply feedBit_ne_zero constant apart
  calc shift mask (first ^^^ second)
      = shift mask first ^^^ shift mask second := shift_xor mask first second
    _ = 0#w := BitVec.xor_eq_zero_iff.mpr same

theorem feed_zeros_eq_shift (mask register : BitVec w) (count : Nat) :
    feed mask register (List.replicate count false) = (shift mask)^[count] register := by
  induction count generalizing register with
  | zero => rfl
  | succ count ih =>
    rw [List.replicate_succ, feed_cons, ih, Function.iterate_succ_apply]
    rfl

/-- Fed with the same bits, a difference of two registers is shifted once for each. -/
theorem feed_difference (mask register difference : BitVec w) (bits : List Bool) :
    feed mask (register ^^^ difference) bits =
      feed mask register bits ^^^ (shift mask)^[bits.length] difference := by
  induction bits generalizing register difference with
  | nil => rfl
  | cons bit bits ih =>
    have stepped : feedBit mask (register ^^^ difference) bit =
        feedBit mask register bit ^^^ shift mask difference := by
      have split := feedBit_xor mask register difference bit false
      rwa [Bool.xor_false] at split
    rw [feed_cons, feed_cons, stepped, ih, List.length_cons, Function.iterate_succ_apply]

theorem feed_zeros_xor (mask first second : BitVec w) (count : Nat) :
    feed mask (first ^^^ second) (List.replicate count false) =
      feed mask first (List.replicate count false) ^^^ feed mask second (List.replicate count false) := by
  rw [feed_difference, List.length_replicate, feed_zeros_eq_shift mask second]

theorem feed_injective {mask : BitVec w} (constant : mask.getLsbD 0 = true) (bits : List Bool) :
    Function.Injective fun register => feed mask register bits := by
  intro first second same
  have moved : feed mask (first ^^^ (first ^^^ second)) bits = feed mask first bits := by
    rw [← BitVec.xor_assoc, BitVec.xor_self, BitVec.zero_xor]
    exact same.symm
  rw [feed_difference] at moved
  have vanished : (shift mask)^[bits.length] (first ^^^ second) = (shift mask)^[bits.length] 0#w := by
    rw [← feed_zeros_eq_shift mask 0#w, feed_zeros]
    simpa using congrArg (feed mask first bits ^^^ ·) moved
  exact BitVec.xor_eq_zero_iff.mp ((shift_injective constant).iterate bits.length vanished)

/-- Zeros fed below a clear top only move the register up. -/
theorem feed_zeros_clear (mask : BitVec w) {register : BitVec w} {count : Nat}
    (clear : ∀ place < count, register.getMsbD place = false) :
    feed mask register (List.replicate count false) = register <<< count := by
  induction count generalizing register with
  | zero => simp
  | succ count ih =>
    have top : register.msb = false := clear 0 (Nat.succ_pos _)
    have stepped : feedBit mask register false = register <<< 1 := by simp [feedBit, top]
    rw [List.replicate_succ, feed_cons, stepped, ih, ← BitVec.shiftLeft_add, Nat.add_comm]
    intro place below
    rw [BitVec.getMsbD_shiftLeft]
    exact clear (place + 1) (Nat.succ_lt_succ below)

/-- Bits meet the register at its top: what is fed could have been there before. -/
theorem feed_met (mask register : BitVec w) {bits : List Bool} {met : BitVec w}
    (placed : ∀ place, met.getMsbD place = bits.getD place false) :
    feed mask register bits = feed mask (register ^^^ met) (List.replicate bits.length false) := by
  induction bits generalizing register met with
  | nil =>
    have empty : met = 0#w := by
      apply BitVec.eq_of_getMsbD_eq
      intro place _
      rw [placed place, BitVec.getMsbD_zero]
      rfl
    rw [empty, BitVec.xor_zero]
    rfl
  | cons bit bits ih =>
    have top : met.msb = bit := placed 0
    have later (place : Nat) : (met <<< 1).getMsbD place = bits.getD place false := by
      rw [BitVec.getMsbD_shiftLeft, placed]
      rfl
    have stepped : feedBit mask register bit ^^^ (met <<< 1) = feedBit mask (register ^^^ met) false := by
      unfold feedBit
      rw [BitVec.msb_xor, top, Bool.xor_false, BitVec.shiftLeft_xor_distrib]
      cases register.msb ^^ bit with
      | true =>
        rw [if_pos rfl, if_pos rfl, BitVec.xor_assoc, BitVec.xor_comm mask, ← BitVec.xor_assoc]
      | false => rfl
    rw [feed_cons, List.length_cons, List.replicate_succ, feed_cons, ih _ later, stepped]

/-! ## Flipped bits -/

/-- A flipped bit enters as the generator, and is shifted by every later bit. -/
theorem feed_flip (mask register : BitVec w) {bits : List Bool} {position : Nat}
    (inside : position < bits.length) :
    feed mask register (bits.modify position not) =
      feed mask register bits ^^^ (shift mask)^[bits.length - position - 1] mask := by
  induction bits generalizing register position with
  | nil => cases inside
  | cons bit bits ih =>
    cases position with
    | zero =>
      have flipped : feedBit mask register (!bit) = feedBit mask register bit ^^^ mask := by
        have split := feedBit_xor mask register 0#w bit true
        rwa [BitVec.xor_zero, Bool.xor_true, feedBit_zero_true] at split
      rw [List.modify_zero_cons, feed_cons, flipped, feed_difference]
      rfl
    | succ position =>
      rw [List.modify_succ_cons, feed_cons, feed_cons, ih _ (Nat.lt_of_succ_lt_succ inside)]
      congr 2
      rw [List.length_cons]
      omega

/-- Two flipped bits of a codeword cancel exactly if their distance is a multiple of the
generator's period. -/
theorem feed_two_flips {mask register : BitVec w} (constant : mask.getLsbD 0 = true)
    {bits : List Bool} (codeword : feed mask register bits = 0#w) {first second : Nat}
    (apart : first < second) (inside : second < bits.length) :
    feed mask register ((bits.modify first not).modify second not) = 0#w ↔
      Function.minimalPeriod (shift mask) mask ∣ second - first := by
  have aligned : second < (bits.modify first not).length := by
    rw [List.length_modify]
    exact inside
  have distance : bits.length - first - 1 = (bits.length - second - 1) + (second - first) := by omega
  rw [feed_flip mask register aligned, List.length_modify,
    feed_flip mask register (Nat.lt_trans apart inside), codeword, BitVec.zero_xor,
    BitVec.xor_eq_zero_iff, distance, Function.iterate_add_apply]
  constructor
  · intro cancelled
    have period := (shift_injective constant).iterate (bits.length - second - 1) cancelled
    exact Function.IsPeriodicPt.minimalPeriod_dvd period
  · intro divides
    have period := Function.isPeriodicPt_iff_minimalPeriod_dvd.mpr divides
    rw [period.eq]

end VehicleRunner.Foundation.BitRegister
