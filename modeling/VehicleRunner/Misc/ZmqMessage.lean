import VehicleRunner.Foundation.Storage

/-! The packed wire layout of `ZmqMessage.h`. Floating-point fields are the bytes of
their objects: the program copies them and computes nothing. -/

namespace VehicleRunner.ZMQ

open VehicleRunner.Foundation

def vehicleIdUnknown : Byte := 0
def vehicleIdLeader : Byte := 1
def vehicleIdSubLeader : Byte := 2
/-- `ZMQ_VEHICLE_ID_MEMBER_NUL` is an `int` in the source, added to before truncation. -/
def vehicleIdMemberNul : Nat := 10
def vehicleIdMember1 : Nat := vehicleIdMemberNul + 1
def vehicleIdMember2 : Nat := vehicleIdMemberNul + 2
def vehicleIdMember3 : Nat := vehicleIdMemberNul + 3

def msgUnknownMessage : Byte := 0
def msgVehiclePayload : Byte := 1

@[ext]
structure Header where
  vehicleId : Byte := vehicleIdUnknown
  messageId : Byte := msgUnknownMessage
  deriving DecidableEq

@[ext]
structure Footer where
  checksum : Byte
  deriving DecidableEq

/-- EPSG:4326 coordinates. -/
@[ext]
structure Position where
  latitudeDeg : Double
  longitudeDeg : Double
  altitudeM : Single
  deriving DecidableEq

/-- NED velocity. -/
@[ext]
structure Velocity where
  northMps : Single
  eastMps : Single
  downMps : Single
  deriving DecidableEq

@[ext]
structure Payload where
  position : Position
  velocity : Velocity
  deriving DecidableEq

@[ext]
structure Message where
  header : Header
  payload : Payload
  footer : Footer
  deriving DecidableEq

abbrev sizeofFooter : Nat := 1
abbrev sizeofPayload : Nat := 32
abbrev sizeofMessage : Nat := 35

def Header.bytes (header : Header) : List Byte := [header.vehicleId, header.messageId]

def Footer.bytes (footer : Footer) : List Byte := [footer.checksum]

def Payload.bytes (payload : Payload) : List Byte :=
  payload.position.latitudeDeg.bytes ++ payload.position.longitudeDeg.bytes ++
    payload.position.altitudeM.bytes ++ payload.velocity.northMps.bytes ++
    payload.velocity.eastMps.bytes ++ payload.velocity.downMps.bytes

def Message.bytes (message : Message) : List Byte :=
  message.header.bytes ++ message.payload.bytes ++ message.footer.bytes

@[simp] theorem Payload.bytes_length (payload : Payload) :
    payload.bytes.length = sizeofPayload := by
  simp [Payload.bytes, Storage.sized, sizeofPayload]

@[simp] theorem Message.bytes_length (message : Message) :
    message.bytes.length = sizeofMessage := by
  simp [Message.bytes, Header.bytes, Footer.bytes, sizeofPayload, sizeofMessage]

/-- The bytes a message occupies. -/
def Message.storage (message : Message) : Storage sizeofMessage :=
  ⟨message.bytes, message.bytes_length⟩

def Payload.ofStorage (object : Storage sizeofPayload) : Payload where
  position :=
    { latitudeDeg := object.slice 0 8 (by decide)
      longitudeDeg := object.slice 8 8 (by decide)
      altitudeM := object.slice 16 4 (by decide) }
  velocity :=
    { northMps := object.slice 20 4 (by decide)
      eastMps := object.slice 24 4 (by decide)
      downMps := object.slice 28 4 (by decide) }

/-- The fields a program reads from a message object. -/
def Message.ofStorage (object : Storage sizeofMessage) : Message where
  header :=
    { vehicleId := object.byteAt 0 (by decide)
      messageId := object.byteAt 1 (by decide) }
  payload := .ofStorage (object.slice 2 32 (by decide))
  footer := { checksum := object.byteAt 34 (by decide) }

private theorem slices_join {size : Nat} (object : Storage size) (offset first second : Nat)
    (inside : offset + first ≤ size) (beyond : (offset + first) + second ≤ size)
    (whole : offset + (first + second) ≤ size) :
    (object.slice offset first inside).bytes ++ (object.slice (offset + first) second beyond).bytes =
      (object.slice offset (first + second) whole).bytes := by
  rw [Storage.slice_bytes, Storage.slice_bytes, Storage.slice_bytes, List.take_add, List.drop_drop]

theorem Payload.ofStorage_bytes (object : Storage sizeofPayload) :
    (Payload.ofStorage object).bytes = object.bytes := by
  have whole : (object.slice 0 32 (by decide)).bytes = object.bytes := by
    rw [Storage.slice_bytes, List.drop_zero]
    exact List.take_of_length_le (Nat.le_of_eq object.sized)
  rw [← whole]
  simp only [Payload.bytes, Payload.ofStorage]
  rw [slices_join object 0 8 8 _ _ (by decide), slices_join object 0 16 4 _ _ (by decide),
    slices_join object 0 20 4 _ _ (by decide), slices_join object 0 24 4 _ _ (by decide),
    slices_join object 0 28 4 _ _ (by decide)]

/-- Equal byte strings are equal payloads: the fields have fixed sizes. -/
theorem Payload.bytes_injective {first second : Payload} (same : first.bytes = second.bytes) :
    first = second := by
  have sizes {size : Nat} (left right : Storage size) : left.bytes.length = right.bytes.length := by
    rw [left.sized, right.sized]
  obtain ⟨same, down⟩ := List.append_inj' same (sizes _ _)
  obtain ⟨same, east⟩ := List.append_inj' same (sizes _ _)
  obtain ⟨same, north⟩ := List.append_inj' same (sizes _ _)
  obtain ⟨same, altitude⟩ := List.append_inj' same (sizes _ _)
  obtain ⟨latitude, longitude⟩ := List.append_inj' same (sizes _ _)
  exact Payload.ext
    (Position.ext (Storage.ext latitude) (Storage.ext longitude) (Storage.ext altitude))
    (Velocity.ext (Storage.ext north) (Storage.ext east) (Storage.ext down))

theorem Message.bytes_injective {first second : Message} (same : first.bytes = second.bytes) :
    first = second := by
  obtain ⟨same, footer⟩ := List.append_inj' same rfl
  obtain ⟨header, payload⟩ := List.append_inj' same (by simp)
  simp only [Header.bytes, List.cons.injEq, and_true] at header
  simp only [Footer.bytes, List.cons.injEq, and_true] at footer
  exact Message.ext (Header.ext header.1 header.2) (Payload.bytes_injective payload)
    (Footer.ext footer)

/-- Reading the fields of an object loses none of its bytes. -/
theorem Message.ofStorage_bytes (object : Storage sizeofMessage) :
    (Message.ofStorage object).bytes = object.bytes := by
  have byteSlice {offset : Nat} (inside : offset < sizeofMessage) (room : offset + 1 ≤ sizeofMessage) :
      [object.byteAt offset inside] = (object.slice offset 1 room).bytes := by
    have found := List.getElem?_eq_some_iff.mp (object.getElem?_byteAt inside)
    obtain ⟨bound, value⟩ := found
    rw [Storage.slice_bytes, List.drop_eq_getElem_cons bound, value]
    rfl
  have whole : (object.slice 0 35 (by decide)).bytes = object.bytes := by
    rw [Storage.slice_bytes, List.drop_zero]
    exact List.take_of_length_le (Nat.le_of_eq object.sized)
  have header : [object.byteAt 0 (by decide), object.byteAt 1 (by decide)] =
      (object.slice 0 2 (by decide)).bytes := by
    rw [← slices_join object 0 1 1 (by decide) (by decide) (by decide),
      ← byteSlice, ← byteSlice]
    rfl
  simp only [Message.bytes, Header.bytes, Footer.bytes, Message.ofStorage]
  have covered := slices_join object 0 2 32 (by decide) (by decide) (by decide)
  have joined := slices_join object 0 34 1 (by decide) (by decide) (by decide)
  rw [Payload.ofStorage_bytes, header, byteSlice (by decide) (by decide), ← whole, ← joined, ← covered]

theorem Message.ofStorage_storage (message : Message) :
    Message.ofStorage message.storage = message :=
  Message.bytes_injective (Message.ofStorage_bytes message.storage)

end VehicleRunner.ZMQ
