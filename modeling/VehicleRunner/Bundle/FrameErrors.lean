import VehicleRunner.Bundle.ZmqSubscribe

/-! Which transmission errors the receive loop catches: a frame and its checksum
form one codeword, and an accepted packet is one too. -/

namespace VehicleRunner.Bundle

open VehicleRunner.Foundation VehicleRunner.Misc

/-- A published frame empties the checksum register. -/
theorem ZmqPublish.frame_codeword (vehicleId : Byte) (payload : ZMQ.Payload) :
    Checksum.crc8ccitt (ZmqPublish.frame vehicleId payload).bytes Checksum.crc8ccittSeed = 0#8 := by
  rw [ZmqPublish.frame_bytes]
  exact (Checksum.crc8ccitt_concat_eq_zero _ _ _).mpr rfl

/-- So does every packet that decodes, whoever it is from. -/
theorem ZmqSubscribe.decode_codeword {vehicleId : Byte} {packet bytes : List Byte}
    (decoded : ZmqSubscribe.decode vehicleId packet = some bytes) :
    Checksum.crc8ccitt packet Checksum.crc8ccittSeed = 0#8 := by
  unfold ZmqSubscribe.decode at decoded
  split at decoded
  · rename_i accepted
    obtain ⟨whole, _, last⟩ := accepted
    have split : packet = packet.take 34 ++ packet.drop 34 := (List.take_append_drop 34 packet).symm
    have single : packet.drop 34 =
        [Checksum.crc8ccitt (packet.take 34) Checksum.crc8ccittSeed] := by
      obtain ⟨inside, value⟩ := List.getElem?_eq_some_iff.mp last
      rw [List.drop_eq_getElem_cons inside, value, List.drop_eq_nil_of_le (Nat.le_of_eq whole)]
    rw [single] at split
    rw [split]
    exact (Checksum.crc8ccitt_concat_eq_zero _ _ _).mpr rfl
  · cases decoded

/-- Neither a short burst nor an odd number of flipped bits turns a published
frame into one that any subscriber emits, whatever its message object holds. -/
theorem ZmqSubscribe.iterate_rejects_corrupted (config : ZmqPublish.Config) (payload : ZMQ.Payload)
    (packet error : List Byte)
    (sent : ZmqPublish.publish config ZMQ.msgVehiclePayload payload = (0, some packet))
    (sized : error.length = ZMQ.sizeofMessage)
    (detectable : BitRegister.Burst 8 (bits error) ∨ (bits error).count true % 2 = 1)
    (vehicleId : Byte) (message : Storage ZMQ.sizeofMessage) :
    ∃ copied, ZmqSubscribe.iterate vehicleId message
      (some (List.zipWith (· ^^^ ·) packet error)) = .ok (copied, none) := by
  rw [ZmqPublish.publish_payload, Prod.mk.injEq, Option.some.injEq] at sent
  obtain ⟨_, rfl⟩ := sent
  have aligned : (ZmqPublish.frame config.vehicleId payload).bytes.length = error.length := by
    rw [ZMQ.Message.bytes_length, sized]
  have whole : (List.zipWith (· ^^^ ·) (ZmqPublish.frame config.vehicleId payload).bytes
      error).length = ZMQ.sizeofMessage := by
    rw [List.length_zipWith, aligned, Nat.min_self, sized]
  refine ⟨⟨_, whole⟩, ?_⟩
  rw [ZmqSubscribe.iterate_whole vehicleId message whole]
  cases decoded : ZmqSubscribe.decode vehicleId (List.zipWith (· ^^^ ·)
      (ZmqPublish.frame config.vehicleId payload).bytes error) with
  | none => rfl
  | some bytes =>
    have codeword := ZmqSubscribe.decode_codeword decoded
    rw [Checksum.crc8ccitt_xor _ _ aligned, ZmqPublish.frame_codeword, BitVec.zero_xor] at codeword
    exact absurd codeword (Checksum.crc8ccitt_error_ne_zero detectable)

/-- The sign bit of the latitude flipped in a frame of the leader. -/
theorem ZmqSubscribe.iterate_rejects_signFlip :
    ∃ copied, ZmqSubscribe.iterate ZMQ.vehicleIdLeader (Storage.zeros 35)
      (some (List.zipWith (· ^^^ ·) ZmqSubscribe.leaderFrame
        (List.replicate 9 0x00 ++ [0x80] ++ List.replicate 25 0x00))) = .ok (copied, none) :=
  ZmqSubscribe.iterate_rejects_corrupted ⟨ZMQ.vehicleIdLeader, "tcp://0.0.0.0:9872"⟩
    (ZMQ.Payload.ofStorage (Storage.zeros 32)) ZmqSubscribe.leaderFrame
    (List.replicate 9 0x00 ++ [0x80] ++ List.replicate 25 0x00) (by decide +kernel) (by decide)
    (.inr (by decide +kernel)) ZMQ.vehicleIdLeader (Storage.zeros 35)

end VehicleRunner.Bundle
