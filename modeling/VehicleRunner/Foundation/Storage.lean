import VehicleRunner.Foundation.BitRegister

/-! Objects as the bytes they occupy. A copy or a read that would leave the
object, and an unsigned subtraction that would wrap, is a fault. -/

namespace VehicleRunner.Foundation

abbrev Byte := BitVec 8

/-- What no later step of an execution can be trusted after. -/
inductive Fault where
  | writeOutside (length size : Nat)
  | readOutside (length size : Nat)
  | wrapped (minuend subtrahend : Nat)
  deriving Repr, DecidableEq

/-- An object of `size` bytes. -/
@[ext]
structure Storage (size : Nat) where
  bytes : List Byte
  sized : bytes.length = size
  deriving DecidableEq

namespace Storage

variable {size : Nat}

def zeros (size : Nat) : Storage size := ⟨List.replicate size 0, List.length_replicate⟩

/-- Copy a byte string over the start of the object. -/
def memcpy (target : Storage size) (source : List Byte) : Except Fault (Storage size) :=
  if fits : source.length ≤ size then
    .ok ⟨source ++ target.bytes.drop source.length, by
      rw [List.length_append, List.length_drop, target.sized]; omega⟩
  else .error (.writeOutside source.length size)

/-- Read the first `length` bytes. -/
def read (object : Storage size) (length : Nat) : Except Fault (List Byte) :=
  if length ≤ size then .ok (object.bytes.take length) else .error (.readOutside length size)

def slice (object : Storage size) (offset length : Nat) (inside : offset + length ≤ size) :
    Storage length :=
  ⟨(object.bytes.drop offset).take length, by
    rw [List.length_take, List.length_drop, object.sized]; omega⟩

def byteAt (object : Storage size) (offset : Nat) (inside : offset < size) : Byte :=
  object.bytes.get ⟨offset, by rw [object.sized]; exact inside⟩

theorem memcpy_ok (target : Storage size) {source : List Byte} (fits : source.length ≤ size) :
    ∃ copied, target.memcpy source = .ok copied ∧
      copied.bytes = source ++ target.bytes.drop source.length := by
  unfold memcpy
  rw [dif_pos fits]
  exact ⟨_, rfl, rfl⟩

theorem memcpy_overflow (target : Storage size) {source : List Byte}
    (long : ¬ source.length ≤ size) :
    target.memcpy source = .error (.writeOutside source.length size) :=
  dif_neg long

theorem read_ok (object : Storage size) {length : Nat} (inside : length ≤ size) :
    object.read length = .ok (object.bytes.take length) :=
  if_pos inside

theorem getElem?_byteAt (object : Storage size) {offset : Nat} (inside : offset < size) :
    object.bytes[offset]? = some (object.byteAt offset inside) := by
  apply List.getElem?_eq_some_iff.mpr
  exact ⟨by rw [object.sized]; exact inside, rfl⟩

theorem slice_bytes (object : Storage size) {offset length : Nat}
    (inside : offset + length ≤ size) :
    (object.slice offset length inside).bytes = (object.bytes.drop offset).take length := rfl

end Storage

/-- A 64-bit floating-point object, known by its bytes only. -/
abbrev Double := Storage 8

/-- A 32-bit floating-point object, known by its bytes only. -/
abbrev Single := Storage 4

/-- Unsigned subtraction, at fault where the machine's would wrap. -/
def subtractSize (minuend subtrahend : Nat) : Except Fault Nat :=
  if subtrahend ≤ minuend then .ok (minuend - subtrahend) else .error (.wrapped minuend subtrahend)

theorem subtractSize_ok {minuend subtrahend : Nat} (enough : subtrahend ≤ minuend) :
    subtractSize minuend subtrahend = .ok (minuend - subtrahend) :=
  if_pos enough

/-! ## Bits of byte strings, most significant first -/

def byteBits (byte : Byte) : List Bool := (List.range 8).map byte.getMsbD

def bits (bytes : List Byte) : List Bool := bytes.flatMap byteBits

@[simp] theorem byteBits_length (byte : Byte) : (byteBits byte).length = 8 := by
  simp [byteBits]

theorem bits_length (bytes : List Byte) : (bits bytes).length = 8 * bytes.length := by
  induction bytes with
  | nil => rfl
  | cons byte bytes ih =>
    rw [bits, List.flatMap_cons, List.length_append, byteBits_length, ← bits, ih, List.length_cons]
    omega

@[simp] theorem bits_cons (byte : Byte) (bytes : List Byte) :
    bits (byte :: bytes) = byteBits byte ++ bits bytes := rfl

theorem byteBits_getD (byte : Byte) (place : Nat) :
    (byteBits byte).getD place false = byte.getMsbD place := by
  by_cases inside : place < 8
  · simp [byteBits, inside]
  · have outside : byte.getMsbD place = false := BitVec.getMsbD_of_ge byte place (Nat.le_of_not_lt inside)
    simp [byteBits, inside, outside]

theorem byteBits_xor (first second : Byte) :
    byteBits (first ^^^ second) = List.zipWith xor (byteBits first) (byteBits second) := by
  simp [byteBits, List.zipWith_map, List.zipWith_self]

/-- Flipping bytes by exclusive or flips the same bits. -/
theorem bits_xor (bytes error : List Byte) (aligned : bytes.length = error.length) :
    bits (List.zipWith (· ^^^ ·) bytes error) = List.zipWith xor (bits bytes) (bits error) := by
  induction bytes generalizing error with
  | nil => rfl
  | cons byte bytes ih =>
    cases error with
    | nil => simp at aligned
    | cons flip error =>
      have rest := ih error (Nat.succ_injective aligned)
      rw [List.zipWith_cons_cons, bits_cons, bits_cons, bits_cons, byteBits_xor, rest,
        List.zipWith_append (by simp)]

/-! ## One flipped bit -/

/-- The byte string with one of its bits flipped. -/
def flipBit (bytes : List Byte) (position : Nat) : List Byte :=
  bytes.modify (position / 8) fun byte => byte ^^^ (0x80#8 >>> (position % 8))

@[simp] theorem flipBit_length (bytes : List Byte) (position : Nat) :
    (flipBit bytes position).length = bytes.length :=
  List.length_modify _ _ _

theorem byteBits_flip (byte : Byte) {place : Nat} (inside : place < 8) :
    byteBits (byte ^^^ (0x80#8 >>> place)) = (byteBits byte).modify place not := by
  have single : ∀ place other : Fin 8,
      (0x80#8 >>> place.val).getMsbD other = decide (place = other) := by decide
  apply List.ext_getElem
  · simp
  · intro other within _
    rw [byteBits_length] at within
    have bit := single ⟨place, inside⟩ ⟨other, within⟩
    simp only [Fin.mk.injEq] at bit
    rw [List.getElem_modify]
    by_cases here : place = other
    · subst here
      simp [byteBits, within]
    · simp [byteBits, bit, here]

private theorem modify_append_left {Element : Type} (change : Element → Element) {front : List Element}
    (back : List Element) {index : Nat} (inside : index < front.length) :
    (front ++ back).modify index change = front.modify index change ++ back := by
  induction front generalizing index with
  | nil => cases inside
  | cons element front ih =>
    cases index with
    | zero => rfl
    | succ index =>
      rw [List.cons_append, List.modify_succ_cons, List.modify_succ_cons,
        ih (Nat.lt_of_succ_lt_succ inside), List.cons_append]

/-- Flipping a bit of the bytes flips that bit. -/
theorem bits_flipBit (bytes : List Byte) (position : Nat) :
    bits (flipBit bytes position) = (bits bytes).modify position not := by
  induction bytes generalizing position with
  | nil => simp [flipBit, bits]
  | cons byte bytes ih =>
    rw [bits_cons]
    by_cases first : position < 8
    · rw [modify_append_left _ _ (by rwa [byteBits_length]), ← byteBits_flip byte first, flipBit,
        Nat.div_eq_of_lt first, Nat.mod_eq_of_lt first]
      rfl
    · obtain ⟨later, rfl⟩ : ∃ later, position = 8 + later := ⟨position - 8, by omega⟩
      have moved : flipBit (byte :: bytes) (8 + later) = byte :: flipBit bytes later := by
        rw [flipBit, Nat.add_div_left later (by decide), Nat.add_mod_left, List.modify_succ_cons]
        rfl
      have rest := List.modifyTailIdx_add (List.modifyHead not) later (byteBits byte) (bits bytes)
      rw [byteBits_length] at rest
      rw [moved, bits_cons, ih]
      exact rest.symm

end VehicleRunner.Foundation
