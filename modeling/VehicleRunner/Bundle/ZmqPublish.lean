import VehicleRunner.Misc.Checksum
import VehicleRunner.Misc.Errno
import VehicleRunner.Misc.ZmqMessage

/-! `ZmqPublish_Impl`: framing of the vehicle's own payload. -/

namespace VehicleRunner.Bundle.ZmqPublish

open VehicleRunner.Foundation VehicleRunner.Misc

structure Config where
  vehicleId : Byte
  localUrl : String
  deriving DecidableEq

/-- Result code, and the packet handed to the socket if there is one. -/
def publish (config : Config) (msgId : Byte) (payload : ZMQ.Payload) : Int × Option (List Byte) :=
  if msgId ≠ ZMQ.msgVehiclePayload then (-ENOMSG, none)
  else
    let message : ZMQ.Message :=
      { header := { vehicleId := config.vehicleId, messageId := msgId }
        payload := payload
        footer := { checksum := 0 } }
    let checksum := Checksum.crc8ccitt
      (message.bytes.take (ZMQ.sizeofMessage - ZMQ.sizeofFooter)) Checksum.crc8ccittSeed
    (0, some { message with footer := { checksum := checksum } }.bytes)

/-- Header and payload as they travel, without the footer. -/
def covered (vehicleId : Byte) (payload : ZMQ.Payload) : List Byte :=
  [vehicleId, ZMQ.msgVehiclePayload] ++ payload.bytes

/-- The message a vehicle with this id puts on the wire for a payload. -/
def frame (vehicleId : Byte) (payload : ZMQ.Payload) : ZMQ.Message where
  header := { vehicleId := vehicleId, messageId := ZMQ.msgVehiclePayload }
  payload := payload
  footer := { checksum := Checksum.crc8ccitt (covered vehicleId payload) Checksum.crc8ccittSeed }

theorem covered_length (vehicleId : Byte) (payload : ZMQ.Payload) :
    (covered vehicleId payload).length = ZMQ.sizeofMessage - ZMQ.sizeofFooter := by
  simp [covered]

theorem frame_bytes (vehicleId : Byte) (payload : ZMQ.Payload) :
    (frame vehicleId payload).bytes = covered vehicleId payload ++
      [Checksum.crc8ccitt (covered vehicleId payload) Checksum.crc8ccittSeed] := rfl

/-- Publishing a payload succeeds and sends its frame. -/
theorem publish_payload (config : Config) (payload : ZMQ.Payload) :
    publish config ZMQ.msgVehiclePayload payload =
      (0, some (frame config.vehicleId payload).bytes) := by
  have summed (footer : ZMQ.Footer) :
      (ZMQ.Message.mk ⟨config.vehicleId, ZMQ.msgVehiclePayload⟩ payload footer).bytes.take
        (ZMQ.sizeofMessage - ZMQ.sizeofFooter) = covered config.vehicleId payload :=
    List.take_left' (covered_length _ _)
  simp only [publish, ne_eq, not_true_eq_false, ↓reduceIte, summed]
  rfl

end VehicleRunner.Bundle.ZmqPublish
