import VehicleRunner.Foundation.Division
import VehicleRunner.Misc.Checksum

/-! Both checksums as polynomial division: the register that the tables stand for, and
the remainder it holds. -/

namespace VehicleRunner.Misc.Checksum

open VehicleRunner.Foundation Polynomial

theorem generator_crc8Mask : BitRegister.generator crc8Mask = X ^ 8 + X ^ 2 + X + 1 := by
  have low : BitRegister.toPoly crc8Mask = X ^ 2 + X + 1 := by
    simp [BitRegister.toPoly, BitRegister.coefficient, crc8Mask, Finset.sum_range_succ]
    ring
  rw [BitRegister.generator, low]
  ring

theorem generator_crc16Mask :
    BitRegister.generator crc16Mask = X ^ 16 + X ^ 12 + X ^ 5 + 1 := by
  have low : BitRegister.toPoly crc16Mask = X ^ 12 + X ^ 5 + 1 := by
    simp [BitRegister.toPoly, BitRegister.coefficient, crc16Mask, Finset.sum_range_succ]
    ring
  rw [BitRegister.generator, low]
  ring

/-- The CRC-8 is what the bit-serial register holds after all bytes, and so the remainder
of the message, and of the seed ahead of it, moved up by the register's width. -/
theorem crc8ccitt_divides (bytes : List Byte) (seed : BitVec 8) :
    crc8ccitt bytes seed = BitRegister.feed 0x07#8 seed (bits bytes) ∧
    ∀ register : BitVec 8, register = crc8ccitt bytes seed ↔ BitRegister.toPoly register =
      (BitRegister.toPoly seed * X ^ (8 * bytes.length) + BitRegister.ofBits (bits bytes) * X ^ 8) %ₘ
        (X ^ 8 + X ^ 2 + X + 1) := by
  refine ⟨crc8ccitt_eq_feed bytes seed, ?_⟩
  intro register
  rw [crc8ccitt_eq_feed, BitRegister.eq_feed_iff, generator_crc8Mask, bits_length]

/-- The CRC-16 likewise, over the low byte of each word; of words that carry one byte
each it is the CRC-16 of the bytes. -/
theorem crc16ccitt_divides (words : List (BitVec 16)) (seed : BitVec 16) :
    crc16ccitt words seed = BitRegister.feed 0x1021#16 seed (bits (words.map lowByte)) ∧
    (∀ register : BitVec 16, register = crc16ccitt words seed ↔ BitRegister.toPoly register =
      (BitRegister.toPoly seed * X ^ (8 * words.length) +
          BitRegister.ofBits (bits (words.map lowByte)) * X ^ 16) %ₘ
        (X ^ 16 + X ^ 12 + X ^ 5 + 1)) ∧
    ∀ bytes : List Byte, crc16ccitt (bytes.map (BitVec.setWidth 16)) seed =
      BitRegister.feed 0x1021#16 seed (bits bytes) := by
  refine ⟨crc16ccitt_eq_feed words seed, ?_, ?_⟩
  · intro register
    rw [crc16ccitt_eq_feed, BitRegister.eq_feed_iff, generator_crc16Mask, bits_length, List.length_map]
  · intro bytes
    have carried : (bytes.map (BitVec.setWidth 16)).map lowByte = bytes := by
      rw [List.map_map]
      apply List.map_id''
      intro byte
      have fits : 8 ≤ 16 := by decide
      rw [Function.comp_apply, lowByte, BitVec.setWidth_setWidth_of_le byte fits, BitVec.setWidth_eq]
    rw [crc16ccitt_eq_feed, carried]
    rfl

end VehicleRunner.Misc.Checksum
