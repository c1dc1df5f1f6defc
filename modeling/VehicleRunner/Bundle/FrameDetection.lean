import VehicleRunner.Bundle.FrameErrors
import VehicleRunner.Misc.Remainder

/-! Exactly which transmission errors the receive loop lets through: the multiples of the
checksum's generator, one error in 256, and nothing about the frame they fall on matters. -/

namespace VehicleRunner.Bundle

open VehicleRunner.Foundation VehicleRunner.Misc Polynomial

/-- A whole packet decodes exactly as a codeword that begins with the id. -/
theorem ZmqSubscribe.decode_iff (vehicleId : Byte) {packet : List Byte} (whole : packet.length = ZMQ.sizeofMessage) :
    (ZmqSubscribe.decode vehicleId packet).isSome = true ↔
      packet[0]? = some vehicleId ∧ Checksum.crc8ccitt packet Checksum.crc8ccittSeed = 0#8 := by
  constructor
  · intro decoded
    obtain ⟨bytes, found⟩ := Option.isSome_iff_exists.mp decoded
    refine ⟨?_, ZmqSubscribe.decode_codeword found⟩
    unfold ZmqSubscribe.decode at found
    split at found
    · rename_i accepted
      exact accepted.2.1
    · cases found
  · intro accepted
    obtain ⟨own, codeword⟩ := accepted
    have inside : 34 < packet.length := by
      rw [whole]
      decide
    have split : packet = packet.take 34 ++ [packet[34]] := by
      rw [List.take_append_getElem inside, List.take_of_length_le (Nat.le_of_eq whole)]
    have last : Checksum.crc8ccitt (packet.take 34) Checksum.crc8ccittSeed = packet[34] := by
      rw [← Checksum.crc8ccitt_concat_eq_zero, ← split]
      exact codeword
    rw [ZmqSubscribe.decode, if_pos ⟨whole, own, by rw [last]; exact List.getElem?_eq_getElem inside⟩]
    rfl

/-- An error empties the register exactly as a multiple of the generator. -/
theorem error_unseen_iff (error : List Byte) :
    Checksum.crc8ccitt error 0#8 = 0#8 ↔
      (X ^ 8 + X ^ 2 + X + 1 : (ZMod 2)[X]) ∣ BitRegister.ofBits (bits error) := by
  rw [Checksum.crc8ccitt_eq_feed, BitRegister.feed_eq_zero_iff (by decide), Checksum.generator_crc8Mask]

/-- A published frame with any error of its own length is emitted by a subscriber exactly if
its first byte has become that subscriber's id and the error is a multiple of the generator;
and of the errors that differ in the last byte only, exactly one is. -/
theorem ZmqSubscribe.iterate_undetected_iff (config : ZmqPublish.Config) (payload : ZMQ.Payload)
    (packet : List Byte)
    (sent : ZmqPublish.publish config ZMQ.msgVehiclePayload payload = (0, some packet)) :
    (∀ (error : List Byte) (vehicleId : Byte) (message : Storage ZMQ.sizeofMessage),
      error.length = ZMQ.sizeofMessage →
      ((∃ copied emitted, ZmqSubscribe.iterate vehicleId message
          (some (List.zipWith (· ^^^ ·) packet error)) = .ok (copied, some emitted)) ↔
        (List.zipWith (· ^^^ ·) packet error)[0]? = some vehicleId ∧
          (X ^ 8 + X ^ 2 + X + 1 : (ZMod 2)[X]) ∣ BitRegister.ofBits (bits error))) ∧
    ∀ front : List Byte, ∃! last : Byte,
      (X ^ 8 + X ^ 2 + X + 1 : (ZMod 2)[X]) ∣ BitRegister.ofBits (bits (front ++ [last])) := by
  rw [ZmqPublish.publish_payload, Prod.mk.injEq, Option.some.injEq] at sent
  obtain ⟨_, rfl⟩ := sent
  constructor
  · intro error vehicleId message sized
    have aligned : (ZmqPublish.frame config.vehicleId payload).bytes.length = error.length := by
      rw [ZMQ.Message.bytes_length, sized]
    have whole : (List.zipWith (· ^^^ ·) (ZmqPublish.frame config.vehicleId payload).bytes
        error).length = ZMQ.sizeofMessage := by
      rw [List.length_zipWith, aligned, Nat.min_self, sized]
    have corrupted := Checksum.crc8ccitt_xor _ _ aligned Checksum.crc8ccittSeed
    rw [ZmqPublish.frame_codeword, BitVec.zero_xor] at corrupted
    rw [← error_unseen_iff, ← corrupted, ← ZmqSubscribe.decode_iff vehicleId whole,
      ZmqSubscribe.iterate_whole vehicleId message whole]
    cases ZmqSubscribe.decode vehicleId (List.zipWith (· ^^^ ·)
        (ZmqPublish.frame config.vehicleId payload).bytes error) with
    | none => simp
    | some bytes => simp
  · intro front
    refine ⟨Checksum.crc8ccitt front 0#8, ?_, ?_⟩
    · exact (error_unseen_iff _).mp ((Checksum.crc8ccitt_concat_eq_zero _ _ _).mpr rfl)
    · intro last divides
      exact ((Checksum.crc8ccitt_concat_eq_zero _ _ _).mp ((error_unseen_iff _).mpr divides)).symm

/-- The generator itself, over the last payload byte and the checksum. -/
def generatorError : List Byte := List.replicate 33 0x00 ++ [0x01, 0x07]

theorem ZmqSubscribe.iterate_undetected_generator :
    ∃ copied emitted, ZmqSubscribe.iterate ZMQ.vehicleIdLeader (Storage.zeros 35)
      (some (List.zipWith (· ^^^ ·) ZmqSubscribe.leaderFrame generatorError)) = .ok (copied, some emitted) := by
  have passes := (ZmqSubscribe.iterate_undetected_iff ⟨ZMQ.vehicleIdLeader, "tcp://0.0.0.0:9872"⟩
    (ZMQ.Payload.ofStorage (Storage.zeros 32)) ZmqSubscribe.leaderFrame (by decide +kernel)).1
  apply (passes generatorError ZMQ.vehicleIdLeader (Storage.zeros 35) rfl).mpr
  exact ⟨rfl, (error_unseen_iff _).mp (by decide +kernel)⟩

end VehicleRunner.Bundle
