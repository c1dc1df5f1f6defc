import VehicleRunner.Misc.Checksum

/-! Errors the checksums see, and errors they do not: two flipped bits under the CRC-8,
and one changed word under the CRC-16. -/

namespace VehicleRunner.Misc.Checksum

open VehicleRunner.Foundation

/-! ## Two flipped bits -/

/-- The last byte is the checksum of those before it. -/
def SelfChecked (seed : BitVec 8) (bytes : List Byte) : Prop :=
  bytes.getLast? = some (crc8ccitt bytes.dropLast seed)

instance (seed : BitVec 8) (bytes : List Byte) : Decidable (SelfChecked seed bytes) :=
  inferInstanceAs (Decidable (_ = _))

theorem selfChecked_concat (seed : BitVec 8) (bytes : List Byte) (checksum : Byte) :
    SelfChecked seed (bytes ++ [checksum]) ↔ crc8ccitt bytes seed = checksum := by
  rw [SelfChecked, List.getLast?_concat, List.dropLast_concat, Option.some.injEq]
  exact eq_comm

/-- A self-checked string is a codeword: the register runs empty on it. -/
theorem selfChecked_iff (seed : BitVec 8) {bytes : List Byte} (some : bytes ≠ []) :
    SelfChecked seed bytes ↔ crc8ccitt bytes seed = 0#8 := by
  rw [← List.dropLast_append_getLast some, selfChecked_concat, crc8ccitt_concat_eq_zero]

/-- The generator's leading term comes back after 127 shifts, and not before. -/
theorem crc8Mask_period : Function.minimalPeriod (BitRegister.shift crc8Mask) crc8Mask = 127 := by
  have prime : Fact (Nat.Prime 127) := ⟨by norm_num⟩
  apply Function.minimalPeriod_eq_prime
  · show (BitRegister.shift crc8Mask)^[127] crc8Mask = crc8Mask
    decide +kernel
  · show ¬ BitRegister.shift crc8Mask crc8Mask = crc8Mask
    decide

theorem selfChecked_flips_iff (bytes : List Byte) (seed : BitVec 8) {first second : Nat}
    (apart : first < second) (inside : second < 8 * (bytes.length + 1)) :
    SelfChecked seed (flipBit (flipBit (bytes ++ [crc8ccitt bytes seed]) first) second) ↔
      127 ∣ second - first := by
  have codeword : BitRegister.feed crc8Mask seed (bits (bytes ++ [crc8ccitt bytes seed])) = 0#8 := by
    rw [← crc8ccitt_eq_feed]
    exact (crc8ccitt_concat_eq_zero _ _ _).mpr rfl
  have within : second < (bits (bytes ++ [crc8ccitt bytes seed])).length := by
    rw [bits_length, List.length_append]
    exact inside
  have some : flipBit (flipBit (bytes ++ [crc8ccitt bytes seed]) first) second ≠ [] := by
    rw [← List.length_pos_iff, flipBit_length, flipBit_length, List.length_append]
    exact Nat.succ_pos _
  rw [selfChecked_iff seed some, crc8ccitt_eq_feed, bits_flipBit, bits_flipBit, ← crc8Mask_period]
  exact BitRegister.feed_two_flips rfl codeword apart within

/-- Two flipped bits of a message with its checksum go unseen exactly if their distance is
a multiple of 127: never in a short one, and at two distances in a frame of the swarm. -/
theorem double_flip_iff (bytes : List Byte) (seed : BitVec 8) (first second : Nat)
    (apart : first < second) (inside : second < 8 * (bytes.length + 1)) :
    (SelfChecked seed (flipBit (flipBit (bytes ++ [crc8ccitt bytes seed]) first) second) ↔
      127 ∣ second - first) ∧
    (8 * (bytes.length + 1) ≤ 127 →
      ¬ SelfChecked seed (flipBit (flipBit (bytes ++ [crc8ccitt bytes seed]) first) second)) ∧
    (8 * (bytes.length + 1) = 280 →
      (SelfChecked seed (flipBit (flipBit (bytes ++ [crc8ccitt bytes seed]) first) second) ↔
        second - first = 127 ∨ second - first = 254)) := by
  have exactly := selfChecked_flips_iff bytes seed apart inside
  refine ⟨exactly, ?_, ?_⟩
  · intro short passes
    have divides := exactly.mp passes
    omega
  · intro frame
    rw [exactly]
    omega

/-- In a frame of zeros, bits 3 and 130 of it cancel. -/
theorem double_flip_frame :
    SelfChecked 0x12 (flipBit (flipBit (List.replicate 34 0 ++ [crc8ccitt (List.replicate 34 0) 0x12]) 3) 130) :=
  (double_flip_iff (List.replicate 34 0) 0x12 3 130 (by decide) (by decide)).1.mpr (by decide)

/-! ## One changed word -/

/-- A register of a byte or more tells apart the bytes it is fed. -/
theorem feed_byte_injective {w : Nat} {mask : BitVec w} (constant : mask.getLsbD 0 = true) (wide : 8 ≤ w)
    (register : BitVec w) :
    Function.Injective fun byte : Byte => BitRegister.feed mask register (byteBits byte) := by
  intro first second same
  have placed (byte : Byte) (place : Nat) :
      (byte.setWidth w <<< (w - 8)).getMsbD place = (byteBits byte).getD place false := by
    have moved : place + (w - 8) + 8 - w = place := by omega
    rw [byteBits_getD, BitVec.getMsbD_shiftLeft]
    simp [moved]
  simp only [BitRegister.feed_met mask register (placed _), byteBits_length] at same
  have met : first.setWidth w <<< (w - 8) = second.setWidth w <<< (w - 8) := by
    simpa using BitRegister.feed_injective constant _ same
  apply BitVec.eq_of_getMsbD_eq
  intro place _
  rw [← byteBits_getD, ← byteBits_getD, ← placed, ← placed, met]

theorem crc16ccittStep_eq_iff (seed first second : BitVec 16) :
    crc16ccittStep seed first = crc16ccittStep seed second ↔ lowByte first = lowByte second := by
  rw [crc16ccittStep_eq_feed, crc16ccittStep_eq_feed]
  exact (feed_byte_injective rfl (by decide) seed).eq_iff

/-- What the register holds is never lost in later words. -/
theorem crc16ccitt_injective (words : List (BitVec 16)) : Function.Injective (crc16ccitt words) := by
  intro first second same
  rw [crc16ccitt_eq_feed, crc16ccitt_eq_feed] at same
  exact BitRegister.feed_injective rfl _ same

/-- Arrays that differ in one word have different checksums exactly if the low bytes of
that word do: the high byte of a word never reaches the register. -/
theorem changed_word_iff (first second : List (BitVec 16)) (seed : BitVec 16) (index : Nat)
    (aligned : first.length = second.length)
    (only : ∀ other, first[other]? ≠ second[other]? ↔ other = index) :
    crc16ccitt first seed ≠ crc16ccitt second seed ↔
      first[index]?.map lowByte ≠ second[index]?.map lowByte := by
  induction first generalizing second seed index with
  | nil =>
    have empty : second = [] := List.eq_nil_of_length_eq_zero aligned.symm
    subst empty
    exact absurd rfl ((only index).mpr rfl)
  | cons word first ih =>
    cases second with
    | nil => cases aligned
    | cons other second =>
      cases index with
      | zero =>
        have same : first = second := by
          apply List.ext_getElem?
          intro later
          by_contra different
          cases (only (later + 1)).mp different
        subst same
        rw [List.getElem?_cons_zero, List.getElem?_cons_zero, Option.map_some, Option.map_some, ne_eq, ne_eq,
          Option.some.injEq, ← crc16ccittStep_eq_iff seed]
        exact not_congr (crc16ccitt_injective first).eq_iff
      | succ index =>
        have same : word = other := by
          by_contra different
          cases (only 0).mp (by simpa using different)
        subst same
        refine ih second (crc16ccittStep seed word) index (Nat.succ_injective aligned) ?_
        intro later
        have here := only (later + 1)
        rwa [List.getElem?_cons_succ, List.getElem?_cons_succ, Nat.succ_inj] at here

/-- Two words of which the second differs in its low byte. -/
theorem changed_word_low : crc16ccitt [0x1234, 0x00FF] crc16ccittSeed ≠ crc16ccitt [0x1234, 0x01FE] crc16ccittSeed := by
  refine (changed_word_iff [0x1234, 0x00FF] [0x1234, 0x01FE] crc16ccittSeed 1 rfl ?_).mpr (by decide)
  intro other
  match other with
  | 0 => decide
  | 1 => decide
  | other + 2 => simp

/-- A change of the high byte is not seen. -/
theorem changed_word_unseen :
    ¬ ∀ (first second : List (BitVec 16)) (seed : BitVec 16) (index : Nat), first.length = second.length →
      (∀ other, first[other]? ≠ second[other]? ↔ other = index) →
      crc16ccitt first seed ≠ crc16ccitt second seed := by
  intro covered
  refine covered [0x0000] [0x0100] crc16ccittSeed 0 rfl ?_ rfl
  intro other
  match other with
  | 0 => decide
  | other + 1 => simp

end VehicleRunner.Misc.Checksum
