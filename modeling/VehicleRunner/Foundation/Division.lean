import VehicleRunner.Foundation.BitRegister

/-! Feeding a register divides polynomials over two elements: it holds the remainder of
all that was fed, and of what it held at first, modulo the generator. -/

namespace VehicleRunner.Foundation.BitRegister

open Polynomial

variable {w : Nat}

def coefficient (bit : Bool) : ZMod 2 := if bit then 1 else 0

theorem coefficient_xor (first second : Bool) :
    coefficient (first ^^ second) = coefficient first + coefficient second := by
  cases first <;> cases second <;> decide

/-- The register as a polynomial of a degree below its width. -/
noncomputable def toPoly (register : BitVec w) : (ZMod 2)[X] :=
  ∑ index ∈ Finset.range w, C (coefficient (register.getLsbD index)) * X ^ index

/-- A bit string as a polynomial, its first bit leading. -/
noncomputable def ofBits : List Bool → (ZMod 2)[X]
  | [] => 0
  | bit :: bits => C (coefficient bit) * X ^ bits.length + ofBits bits

/-- The generator a mask stands for, its leading term included. -/
noncomputable def generator (mask : BitVec w) : (ZMod 2)[X] := X ^ w + toPoly mask

theorem coeff_toPoly (register : BitVec w) (index : Nat) :
    (toPoly register).coeff index = coefficient (register.getLsbD index) := by
  simp only [toPoly, finsetSum_coeff, coeff_C_mul_X_pow, Finset.sum_ite_eq, Finset.mem_range]
  by_cases inside : index < w
  · rw [if_pos inside]
  · rw [if_neg inside, BitVec.getLsbD_of_ge register index (Nat.le_of_not_lt inside)]
    rfl

theorem degree_toPoly_lt (register : BitVec w) : (toPoly register).degree < w := by
  apply (degree_lt_iff_coeff_zero _ _).mpr
  intro index outside
  rw [coeff_toPoly, BitVec.getLsbD_of_ge register index outside]
  rfl

theorem generator_monic (mask : BitVec w) : (generator mask).Monic :=
  monic_X_pow_add (degree_toPoly_lt mask)

theorem degree_generator (mask : BitVec w) : (generator mask).degree = w := by
  rw [generator, degree_add_eq_left_of_degree_lt]
  · exact degree_X_pow w
  · rw [degree_X_pow]
    exact degree_toPoly_lt mask

theorem toPoly_injective : Function.Injective (toPoly : BitVec w → (ZMod 2)[X]) := by
  intro first second same
  apply BitVec.eq_of_getLsbD_eq
  intro index _
  have alike := congrArg (Polynomial.coeff · index) same
  simp only [coeff_toPoly] at alike
  cases left : first.getLsbD index <;> cases right : second.getLsbD index <;>
    simp [coefficient, left, right] at alike ⊢

theorem toPoly_xor (first second : BitVec w) :
    toPoly (first ^^^ second) = toPoly first + toPoly second := by
  ext index
  rw [coeff_add, coeff_toPoly, coeff_toPoly, coeff_toPoly, BitVec.getLsbD_xor, coefficient_xor]

/-- A shift multiplies by `X`; the bit lost at the top is the leading term. -/
theorem toPoly_shiftLeft (register : BitVec w) :
    toPoly (register <<< 1) + C (coefficient register.msb) * X ^ w = X * toPoly register := by
  ext index
  rw [coeff_add, coeff_toPoly, coeff_C_mul_X_pow, BitVec.getLsbD_shiftLeft,
    BitVec.msb_eq_getLsbD_last]
  cases index with
  | zero =>
    cases w with
    | zero => simp [coefficient]
    | succ w => simp [coefficient]
  | succ index =>
    rw [coeff_X_mul, coeff_toPoly]
    by_cases last : index + 1 = w
    · subst last
      simp [coefficient]
    · by_cases inside : index + 1 < w
      · simp [last, inside]
      · have outside : w ≤ index := by omega
        simp [last, inside, BitVec.getLsbD_of_ge register index outside, coefficient]

theorem toPoly_feedBit (mask register : BitVec w) (bit : Bool) :
    toPoly (feedBit mask register bit) =
      toPoly (register <<< 1) + C (coefficient (register.msb ^^ bit)) * toPoly mask := by
  unfold feedBit
  cases register.msb ^^ bit with
  | true => simp [toPoly_xor, coefficient]
  | false => simp [coefficient]

/-- One bit fed multiplies by `X`, adds the bit on top, and takes off the generator where
a leading term is left. -/
theorem toPoly_feedBit_eq (mask register : BitVec w) (bit : Bool) :
    toPoly (feedBit mask register bit) =
      X * toPoly register + C (coefficient bit) * X ^ w +
        C (coefficient (register.msb ^^ bit)) * generator mask := by
  let carry : (ZMod 2)[X] := C (coefficient (register.msb ^^ bit))
  calc toPoly (feedBit mask register bit)
      = toPoly (register <<< 1) + carry * toPoly mask := toPoly_feedBit mask register bit
    _ = toPoly (register <<< 1) + carry * toPoly mask + (carry * X ^ w + carry * X ^ w) := by
        rw [CharTwo.add_self_eq_zero, add_zero]
    _ = toPoly (register <<< 1) + (C (coefficient register.msb) + C (coefficient bit)) * X ^ w +
          carry * generator mask := by
        rw [generator, ← C_add, ← coefficient_xor]
        ring
    _ = X * toPoly register + C (coefficient bit) * X ^ w + carry * generator mask := by
        rw [← toPoly_shiftLeft]
        ring

/-- What was fed differs from what the register holds by a multiple of the generator. -/
theorem generator_dvd_feed (mask register : BitVec w) (bits : List Bool) :
    generator mask ∣
      toPoly register * X ^ bits.length + ofBits bits * X ^ w - toPoly (feed mask register bits) := by
  induction bits generalizing register with
  | nil => simp [ofBits]
  | cons bit bits ih =>
    have stepped : generator mask ∣ (X * toPoly register + C (coefficient bit) * X ^ w -
        toPoly (feedBit mask register bit)) * X ^ bits.length := by
      apply Dvd.dvd.mul_right
      rw [toPoly_feedBit_eq, sub_add_cancel_left, dvd_neg]
      exact dvd_mul_left _ _
    have whole := dvd_add (ih (feedBit mask register bit)) stepped
    rw [feed_cons, List.length_cons, ofBits]
    convert whole using 1
    ring

/-- The register holds the remainder of the bits, moved up by its width, and of its
first content, moved up past them. -/
theorem toPoly_feed (mask register : BitVec w) (bits : List Bool) :
    toPoly (feed mask register bits) =
      (toPoly register * X ^ bits.length + ofBits bits * X ^ w) %ₘ generator mask := by
  have small : toPoly (feed mask register bits) %ₘ generator mask =
      toPoly (feed mask register bits) := by
    apply (modByMonic_eq_self_iff (generator_monic mask)).mpr
    rw [degree_generator]
    exact degree_toPoly_lt _
  rw [← small]
  exact (modByMonic_eq_of_dvd_sub (generator_monic mask) (generator_dvd_feed mask register bits)).symm

/-- The remainder says which register it is. -/
theorem eq_feed_iff (mask register : BitVec w) (bits : List Bool) (other : BitVec w) :
    other = feed mask register bits ↔ toPoly other =
      (toPoly register * X ^ bits.length + ofBits bits * X ^ w) %ₘ generator mask := by
  rw [← toPoly_feed]
  exact toPoly_injective.eq_iff.symm

/-- A generator with a constant term shares no factor with a shift. -/
theorem generator_coprime {mask : BitVec w} (constant : mask.getLsbD 0 = true) :
    IsCoprime (X ^ w) (generator mask) := by
  have positive : w ≠ 0 := by
    rintro rfl
    simp at constant
  have last : (generator mask).coeff 0 = 1 := by
    rw [generator, coeff_add, coeff_X_pow, if_neg positive.symm, coeff_toPoly, constant]
    simp [coefficient]
  apply IsCoprime.pow_left
  rw [irreducible_X.coprime_iff_not_dvd, X_dvd_iff, last]
  exact one_ne_zero

/-- Fed from the start, the register ends up empty exactly on the multiples of the
generator. -/
theorem feed_eq_zero_iff {mask : BitVec w} (constant : mask.getLsbD 0 = true) (bits : List Bool) :
    feed mask 0#w bits = 0#w ↔ generator mask ∣ ofBits bits := by
  have empty : toPoly (0#w) = 0 := by
    ext index
    rw [coeff_toPoly]
    simp [coefficient]
  rw [← toPoly_injective.eq_iff, toPoly_feed, empty, zero_mul, zero_add,
    modByMonic_eq_zero_iff_dvd (generator_monic mask)]
  constructor
  · exact (generator_coprime constant).symm.dvd_of_dvd_mul_right
  · exact fun divides => divides.mul_right _

end VehicleRunner.Foundation.BitRegister
