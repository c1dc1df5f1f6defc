import VehicleRunner.Foundation.Shifting
import VehicleRunner.Foundation.Storage

/-! The checksum class: table-driven CRC-8-CCITT and CRC-16-CCITT, with the tables
as the source lists them, and each related to its bit-serial register. -/

namespace VehicleRunner.Misc.Checksum

open VehicleRunner.Foundation

set_option maxRecDepth 4000 in
/-- Generator polynomial, normal 0x07. -/
def crc8ccittTable : Vector (BitVec 8) 256 := #v[
  0x00, 0x07, 0x0E, 0x09, 0x1C, 0x1B, 0x12, 0x15,
  0x38, 0x3F, 0x36, 0x31, 0x24, 0x23, 0x2A, 0x2D,
  0x70, 0x77, 0x7E, 0x79, 0x6C, 0x6B, 0x62, 0x65,
  0x48, 0x4F, 0x46, 0x41, 0x54, 0x53, 0x5A, 0x5D,
  0xE0, 0xE7, 0xEE, 0xE9, 0xFC, 0xFB, 0xF2, 0xF5,
  0xD8, 0xDF, 0xD6, 0xD1, 0xC4, 0xC3, 0xCA, 0xCD,
  0x90, 0x97, 0x9E, 0x99, 0x8C, 0x8B, 0x82, 0x85,
  0xA8, 0xAF, 0xA6, 0xA1, 0xB4, 0xB3, 0xBA, 0xBD,
  0xC7, 0xC0, 0xC9, 0xCE, 0xDB, 0xDC, 0xD5, 0xD2,
  0xFF, 0xF8, 0xF1, 0xF6, 0xE3, 0xE4, 0xED, 0xEA,
  0xB7, 0xB0, 0xB9, 0xBE, 0xAB, 0xAC, 0xA5, 0xA2,
  0x8F, 0x88, 0x81, 0x86, 0x93, 0x94, 0x9D, 0x9A,
  0x27, 0x20, 0x29, 0x2E, 0x3B, 0x3C, 0x35, 0x32,
  0x1F, 0x18, 0x11, 0x16, 0x03, 0x04, 0x0D, 0x0A,
  0x57, 0x50, 0x59, 0x5E, 0x4B, 0x4C, 0x45, 0x42,
  0x6F, 0x68, 0x61, 0x66, 0x73, 0x74, 0x7D, 0x7A,
  0x89, 0x8E, 0x87, 0x80, 0x95, 0x92, 0x9B, 0x9C,
  0xB1, 0xB6, 0xBF, 0xB8, 0xAD, 0xAA, 0xA3, 0xA4,
  0xF9, 0xFE, 0xF7, 0xF0, 0xE5, 0xE2, 0xEB, 0xEC,
  0xC1, 0xC6, 0xCF, 0xC8, 0xDD, 0xDA, 0xD3, 0xD4,
  0x69, 0x6E, 0x67, 0x60, 0x75, 0x72, 0x7B, 0x7C,
  0x51, 0x56, 0x5F, 0x58, 0x4D, 0x4A, 0x43, 0x44,
  0x19, 0x1E, 0x17, 0x10, 0x05, 0x02, 0x0B, 0x0C,
  0x21, 0x26, 0x2F, 0x28, 0x3D, 0x3A, 0x33, 0x34,
  0x4E, 0x49, 0x40, 0x47, 0x52, 0x55, 0x5C, 0x5B,
  0x76, 0x71, 0x78, 0x7F, 0x6A, 0x6D, 0x64, 0x63,
  0x3E, 0x39, 0x30, 0x37, 0x22, 0x25, 0x2C, 0x2B,
  0x06, 0x01, 0x08, 0x0F, 0x1A, 0x1D, 0x14, 0x13,
  0xAE, 0xA9, 0xA0, 0xA7, 0xB2, 0xB5, 0xBC, 0xBB,
  0x96, 0x91, 0x98, 0x9F, 0x8A, 0x8D, 0x84, 0x83,
  0xDE, 0xD9, 0xD0, 0xD7, 0xC2, 0xC5, 0xCC, 0xCB,
  0xE6, 0xE1, 0xE8, 0xEF, 0xFA, 0xFD, 0xF4, 0xF3]

set_option maxRecDepth 4000 in
/-- Generator polynomial, normal 0x1021. -/
def crc16ccittTable : Vector (BitVec 16) 256 := #v[
  0x0000, 0x1021, 0x2042, 0x3063, 0x4084, 0x50a5, 0x60c6, 0x70e7,
  0x8108, 0x9129, 0xa14a, 0xb16b, 0xc18c, 0xd1ad, 0xe1ce, 0xf1ef,
  0x1231, 0x0210, 0x3273, 0x2252, 0x52b5, 0x4294, 0x72f7, 0x62d6,
  0x9339, 0x8318, 0xb37b, 0xa35a, 0xd3bd, 0xc39c, 0xf3ff, 0xe3de,
  0x2462, 0x3443, 0x0420, 0x1401, 0x64e6, 0x74c7, 0x44a4, 0x5485,
  0xa56a, 0xb54b, 0x8528, 0x9509, 0xe5ee, 0xf5cf, 0xc5ac, 0xd58d,
  0x3653, 0x2672, 0x1611, 0x0630, 0x76d7, 0x66f6, 0x5695, 0x46b4,
  0xb75b, 0xa77a, 0x9719, 0x8738, 0xf7df, 0xe7fe, 0xd79d, 0xc7bc,
  0x48c4, 0x58e5, 0x6886, 0x78a7, 0x0840, 0x1861, 0x2802, 0x3823,
  0xc9cc, 0xd9ed, 0xe98e, 0xf9af, 0x8948, 0x9969, 0xa90a, 0xb92b,
  0x5af5, 0x4ad4, 0x7ab7, 0x6a96, 0x1a71, 0x0a50, 0x3a33, 0x2a12,
  0xdbfd, 0xcbdc, 0xfbbf, 0xeb9e, 0x9b79, 0x8b58, 0xbb3b, 0xab1a,
  0x6ca6, 0x7c87, 0x4ce4, 0x5cc5, 0x2c22, 0x3c03, 0x0c60, 0x1c41,
  0xedae, 0xfd8f, 0xcdec, 0xddcd, 0xad2a, 0xbd0b, 0x8d68, 0x9d49,
  0x7e97, 0x6eb6, 0x5ed5, 0x4ef4, 0x3e13, 0x2e32, 0x1e51, 0x0e70,
  0xff9f, 0xefbe, 0xdfdd, 0xcffc, 0xbf1b, 0xaf3a, 0x9f59, 0x8f78,
  0x9188, 0x81a9, 0xb1ca, 0xa1eb, 0xd10c, 0xc12d, 0xf14e, 0xe16f,
  0x1080, 0x00a1, 0x30c2, 0x20e3, 0x5004, 0x4025, 0x7046, 0x6067,
  0x83b9, 0x9398, 0xa3fb, 0xb3da, 0xc33d, 0xd31c, 0xe37f, 0xf35e,
  0x02b1, 0x1290, 0x22f3, 0x32d2, 0x4235, 0x5214, 0x6277, 0x7256,
  0xb5ea, 0xa5cb, 0x95a8, 0x8589, 0xf56e, 0xe54f, 0xd52c, 0xc50d,
  0x34e2, 0x24c3, 0x14a0, 0x0481, 0x7466, 0x6447, 0x5424, 0x4405,
  0xa7db, 0xb7fa, 0x8799, 0x97b8, 0xe75f, 0xf77e, 0xc71d, 0xd73c,
  0x26d3, 0x36f2, 0x0691, 0x16b0, 0x6657, 0x7676, 0x4615, 0x5634,
  0xd94c, 0xc96d, 0xf90e, 0xe92f, 0x99c8, 0x89e9, 0xb98a, 0xa9ab,
  0x5844, 0x4865, 0x7806, 0x6827, 0x18c0, 0x08e1, 0x3882, 0x28a3,
  0xcb7d, 0xdb5c, 0xeb3f, 0xfb1e, 0x8bf9, 0x9bd8, 0xabbb, 0xbb9a,
  0x4a75, 0x5a54, 0x6a37, 0x7a16, 0x0af1, 0x1ad0, 0x2ab3, 0x3a92,
  0xfd2e, 0xed0f, 0xdd6c, 0xcd4d, 0xbdaa, 0xad8b, 0x9de8, 0x8dc9,
  0x7c26, 0x6c07, 0x5c64, 0x4c45, 0x3ca2, 0x2c83, 0x1ce0, 0x0cc1,
  0xef1f, 0xff3e, 0xcf5d, 0xdf7c, 0xaf9b, 0xbfba, 0x8fd9, 0x9ff8,
  0x6e17, 0x7e36, 0x4e55, 0x5e74, 0x2e93, 0x3eb2, 0x0ed1, 0x1ef0]

/-- Default value of the `seed` argument of `crc8ccitt`. -/
def crc8ccittSeed : BitVec 8 := 0x12

/-- Default value of the `seed` argument of `crc16ccitt`. -/
def crc16ccittSeed : BitVec 16 := 0x1214

/-- One turn of the loop of `crc8ccitt`. -/
def crc8ccittStep (seed : BitVec 8) (byte : Byte) : BitVec 8 :=
  crc8ccittTable.get (seed ^^^ byte).toFin

def crc8ccitt (bytes : List Byte) (seed : BitVec 8) : BitVec 8 :=
  bytes.foldl crc8ccittStep seed

/-- One turn of the loop of `crc16ccitt`: only the low byte of the exclusive or
reaches the table index, and the shift loses the high byte of the seed. -/
def crc16ccittStep (seed word : BitVec 16) : BitVec 16 :=
  (seed <<< 8) ^^^ crc16ccittTable.get (((seed >>> 8) ^^^ word).setWidth 8).toFin

/-- The source computes in 32 bits, and drops what the assignment cannot hold. -/
theorem crc16ccittStep_promoted (seed word : BitVec 16) :
    crc16ccittStep seed word =
      BitVec.setWidth 16 ((seed.setWidth 32 <<< 8) ^^^ BitVec.setWidth 32 (crc16ccittTable.get
        (BitVec.setWidth 8 (((seed.setWidth 32 >>> 8) ^^^ word.setWidth 32) &&& 0xFF#32)).toFin)) := by
  have masked : BitVec.setWidth 8 0xFF#32 = BitVec.allOnes 8 := by decide
  have index : BitVec.setWidth 8 (((seed.setWidth 32 >>> 8) ^^^ word.setWidth 32) &&& 0xFF#32) =
      ((seed >>> 8) ^^^ word).setWidth 8 := by
    rw [BitVec.setWidth_and, masked, BitVec.and_allOnes]
    ext place inside
    have wide : 8 + place < 32 := by omega
    simp [wide]
  have top : BitVec.setWidth 16 (seed.setWidth 32 <<< 8) = seed <<< 8 := by
    ext place inside
    simp
  rw [index, BitVec.setWidth_xor, top, BitVec.setWidth_setWidth_of_le _ (by decide), BitVec.setWidth_eq]
  rfl

def crc16ccitt (words : List (BitVec 16)) (seed : BitVec 16) : BitVec 16 :=
  words.foldl crc16ccittStep seed

/-! ## The CRC-8 table against the bit-serial register -/

/-- Feedback mask of the generator x^8 + x^2 + x + 1. -/
def crc8Mask : BitVec 8 := 0x07

/-- A table compared as a list gives each of its entries. -/
theorem table_get {w : Nat} {table : Vector (BitVec w) 256} (entry : Byte → BitVec w)
    (listed : table.toList = (List.range 256).map fun index => entry (BitVec.ofNat 8 index))
    (index : Byte) : table.get index.toFin = entry index := by
  have inside : index.toNat < table.toList.length := by
    rw [Vector.length_toList]
    exact index.isLt
  have found : table.get index.toFin = table.toList[index.toNat] := rfl
  simp only [found, listed, List.getElem_map, List.getElem_range, BitVec.ofNat_toNat, BitVec.setWidth_eq]

theorem crc8ccittTable_entry (index : Byte) :
    crc8ccittTable.get index.toFin = BitRegister.feed crc8Mask index (List.replicate 8 false) :=
  table_get (fun index => BitRegister.feed crc8Mask index (List.replicate 8 false)) (by decide +kernel) index

/-- One table look-up is eight shifts of the register. -/
theorem crc8ccittStep_eq_feed (seed : BitVec 8) (byte : Byte) :
    crc8ccittStep seed byte = BitRegister.feed crc8Mask seed (byteBits byte) := by
  have placed (place : Nat) : byte.getMsbD place = (byteBits byte).getD place false :=
    (byteBits_getD byte place).symm
  rw [BitRegister.feed_met crc8Mask seed placed, byteBits_length]
  exact crc8ccittTable_entry (seed ^^^ byte)

/-- The table-driven loop computes the bit-serial register, from any seed. -/
theorem crc8ccitt_eq_feed (bytes : List Byte) (seed : BitVec 8) :
    crc8ccitt bytes seed = BitRegister.feed crc8Mask seed (bits bytes) := by
  induction bytes generalizing seed with
  | nil => rfl
  | cons byte bytes ih =>
    rw [bits_cons, BitRegister.feed_append, ← crc8ccittStep_eq_feed, ← ih]
    rfl

theorem crc8ccitt_append (front back : List Byte) (seed : BitVec 8) :
    crc8ccitt (front ++ back) seed = crc8ccitt back (crc8ccitt front seed) :=
  List.foldl_append

/-- A byte empties the register exactly when it repeats it. -/
theorem crc8ccittStep_eq_zero (seed : BitVec 8) (byte : Byte) :
    crc8ccittStep seed byte = 0#8 ↔ seed = byte := by
  rw [crc8ccittStep, crc8ccittTable_entry]
  constructor
  · intro empty
    by_contra different
    have apart : seed ^^^ byte ≠ 0#8 := fun zero => different (BitVec.xor_eq_zero_iff.mp zero)
    exact BitRegister.feed_zeros_ne_zero rfl apart 8 empty
  · intro same
    rw [same, BitVec.xor_self, BitRegister.feed_zeros]

/-- A string carries its own checksum exactly when the register runs empty on it. -/
theorem crc8ccitt_concat_eq_zero (bytes : List Byte) (checksum : Byte) (seed : BitVec 8) :
    crc8ccitt (bytes ++ [checksum]) seed = 0#8 ↔ crc8ccitt bytes seed = checksum := by
  rw [crc8ccitt_append]
  exact crc8ccittStep_eq_zero _ _

/-- The checksum is linear: an error acts on it as if alone, from an empty seed. -/
theorem crc8ccitt_xor (bytes error : List Byte) (aligned : bytes.length = error.length)
    (seed : BitVec 8) :
    crc8ccitt (List.zipWith (· ^^^ ·) bytes error) seed =
      crc8ccitt bytes seed ^^^ crc8ccitt error 0#8 := by
  rw [crc8ccitt_eq_feed, bits_xor bytes error aligned, crc8ccitt_eq_feed, crc8ccitt_eq_feed,
    ← BitRegister.feed_xor _ _ _ _ _ (by rw [bits_length, bits_length, aligned]),
    BitVec.xor_zero]

/-- The generator has a constant term and evenly many terms, so an error inside
eight consecutive bits or of odd weight never goes unseen. -/
theorem crc8ccitt_error_ne_zero {error : List Byte}
    (detectable : BitRegister.Burst 8 (bits error) ∨ (bits error).count true % 2 = 1) :
    crc8ccitt error 0#8 ≠ 0#8 := by
  rw [crc8ccitt_eq_feed]
  rcases detectable with confined | odd
  · exact BitRegister.feed_burst_ne_zero rfl confined
  · exact BitRegister.feed_odd_ne_zero rfl odd

/-! ## The CRC-16 table against the bit-serial register -/

/-- Feedback mask of the generator x^16 + x^12 + x^5 + 1. -/
def crc16Mask : BitVec 16 := 0x1021

/-- The one byte of a word that reaches the register. -/
def lowByte (word : BitVec 16) : Byte := word.setWidth 8

/-- The word meets the top byte of the register. -/
theorem lowByte_met (seed word : BitVec 16) :
    seed ^^^ ((lowByte word).setWidth 16 <<< 8) =
      ((((seed >>> 8) ^^^ word).setWidth 8).setWidth 16 <<< 8) ^^^ (lowByte seed).setWidth 16 := by
  apply BitVec.eq_of_getLsbD_eq
  intro place inside
  by_cases low : place < 8
  · simp [lowByte, inside, low]
  · have near : place - 8 < 8 := by omega
    have same : 8 + (place - 8) = place := by omega
    have within : place - 8 < 16 := by omega
    simp [lowByte, inside, low, near, same, within]

theorem lowByte_top (word : BitVec 16) {place : Nat} (above : place < 8) :
    ((lowByte word).setWidth 16).getMsbD place = false := by
  have high : ¬ 8 ≤ place := by omega
  simp [lowByte, high]

theorem lowByte_moved (word : BitVec 16) : (lowByte word).setWidth 16 <<< 8 = word <<< 8 := by
  apply BitVec.eq_of_getLsbD_eq
  intro place inside
  have near : place - 8 < 8 := by omega
  have within : place - 8 < 16 := by omega
  simp [lowByte, inside, near, BitVec.getLsbD_eq_getElem within]

theorem crc16ccittTable_entry (index : Byte) :
    crc16ccittTable.get index.toFin =
      BitRegister.feed crc16Mask (index.setWidth 16 <<< 8) (List.replicate 8 false) :=
  table_get (fun index => BitRegister.feed crc16Mask (index.setWidth 16 <<< 8) (List.replicate 8 false))
    (by decide +kernel) index

/-- The top byte of the register meets the word, and the low one only moves up. -/
theorem crc16ccittStep_eq_feed (seed word : BitVec 16) :
    crc16ccittStep seed word = BitRegister.feed crc16Mask seed (byteBits (lowByte word)) := by
  let index : Byte := BitVec.setWidth 8 ((seed >>> 8) ^^^ word)
  have placed (place : Nat) : ((lowByte word).setWidth 16 <<< 8).getMsbD place =
      (byteBits (lowByte word)).getD place false := by
    rw [byteBits_getD, BitVec.getMsbD_shiftLeft, BitVec.getMsbD_setWidth]
    simp
  have moved : BitRegister.feed crc16Mask ((lowByte seed).setWidth 16) (List.replicate 8 false) =
      seed <<< 8 := by
    rw [BitRegister.feed_zeros_clear crc16Mask fun place above => lowByte_top seed above]
    exact lowByte_moved seed
  symm
  calc BitRegister.feed crc16Mask seed (byteBits (lowByte word))
      = BitRegister.feed crc16Mask (seed ^^^ ((lowByte word).setWidth 16 <<< 8)) (List.replicate 8 false) := by
        rw [BitRegister.feed_met crc16Mask seed placed, byteBits_length]
    _ = BitRegister.feed crc16Mask (index.setWidth 16 <<< 8) (List.replicate 8 false) ^^^ (seed <<< 8) := by
        rw [lowByte_met, BitRegister.feed_zeros_xor, moved]
    _ = crc16ccittTable.get index.toFin ^^^ (seed <<< 8) := by
        rw [crc16ccittTable_entry]
    _ = crc16ccittStep seed word := BitVec.xor_comm _ _

/-- The table-driven loop computes the bit-serial register over the low bytes, from any seed. -/
theorem crc16ccitt_eq_feed (words : List (BitVec 16)) (seed : BitVec 16) :
    crc16ccitt words seed = BitRegister.feed crc16Mask seed (bits (words.map lowByte)) := by
  induction words generalizing seed with
  | nil => rfl
  | cons word words ih =>
    rw [List.map_cons, bits_cons, BitRegister.feed_append, ← crc16ccittStep_eq_feed, ← ih]
    rfl

end VehicleRunner.Misc.Checksum
