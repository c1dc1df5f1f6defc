import VehicleRunner.Foundation.Transducer
import VehicleRunner.Bundle.ZmqPublish

/-! `ZmqSubscribe_Impl::run`: one message object is reused for every packet the
socket returns, and the packet's own length drives the copy and the checksum. -/

namespace VehicleRunner.Bundle.ZmqSubscribe

open VehicleRunner.Foundation VehicleRunner.Misc

structure Config where
  vehicleId : Byte
  remoteUrl : String
  deriving DecidableEq

/-- One turn of the receive loop. The result of `recv` is nothing on a timeout;
its value is the full length of the packet. -/
def iterate (vehicleId : Byte) (message : Storage ZMQ.sizeofMessage) (result : Option (List Byte)) :
    Except Fault (Storage ZMQ.sizeofMessage × Option ZMQ.Message) :=
  match result with
  | none => .ok (message, none)
  | some packet =>
    if packet.length > 0 then do
      let size := packet.length
      let message ← message.memcpy packet
      if (ZMQ.Message.ofStorage message).header.vehicleId ≠ vehicleId then
        return (message, none)
      let length ← subtractSize size ZMQ.sizeofFooter
      let bytes ← message.read length
      let footer : ZMQ.Footer := { checksum := Checksum.crc8ccitt bytes Checksum.crc8ccittSeed }
      if footer.checksum = (ZMQ.Message.ofStorage message).footer.checksum then
        return (message, some (ZMQ.Message.ofStorage message))
      return (message, none)
    else .ok (message, none)

/-- The loop over a finite sequence of `recv` results, with what it emits. -/
def run (vehicleId : Byte) (message : Storage ZMQ.sizeofMessage) (results : List (Option (List Byte))) :
    Except Fault (Storage ZMQ.sizeofMessage × List ZMQ.Message) :=
  Transducer.drive (iterate vehicleId) message results

/-- What a packet is worth on its own. -/
def decode (vehicleId : Byte) (packet : List Byte) : Option (List Byte) :=
  if packet.length = ZMQ.sizeofMessage ∧ packet[0]? = some vehicleId ∧
      packet[34]? = some (Checksum.crc8ccitt (packet.take 34) Checksum.crc8ccittSeed) then
    some packet
  else none

/-- A truncated packet of the subscribed vehicle that passes against the checksum
byte an earlier packet left in the message object. -/
def StaleMatch (vehicleId : Byte) (message : Storage ZMQ.sizeofMessage)
    (result : Option (List Byte)) : Prop :=
  ∃ packet, result = some packet ∧ 0 < packet.length ∧ packet.length < ZMQ.sizeofMessage ∧
    packet[0]? = some vehicleId ∧
    (ZMQ.Message.ofStorage message).footer.checksum =
      Checksum.crc8ccitt (packet.take (packet.length - 1)) Checksum.crc8ccittSeed

/-! ## What one turn does -/

theorem iterate_timeout (vehicleId : Byte) (message : Storage ZMQ.sizeofMessage) :
    iterate vehicleId message none = .ok (message, none) := rfl

theorem iterate_empty (vehicleId : Byte) (message : Storage ZMQ.sizeofMessage) :
    iterate vehicleId message (some []) = .ok (message, none) := rfl

/-- On a packet that fits, the turn copies it and never faults; it emits the
object when the first byte and the checksum byte of the object pass. -/
theorem iterate_fits (vehicleId : Byte) (message : Storage ZMQ.sizeofMessage) {packet : List Byte}
    (present : 0 < packet.length) (fits : packet.length ≤ ZMQ.sizeofMessage) :
    ∃ copied, copied.bytes = packet ++ message.bytes.drop packet.length ∧
      iterate vehicleId message (some packet) = .ok (copied,
        if packet[0]? = some vehicleId ∧
            (ZMQ.Message.ofStorage copied).footer.checksum =
              Checksum.crc8ccitt (packet.take (packet.length - 1)) Checksum.crc8ccittSeed then
          some (ZMQ.Message.ofStorage copied)
        else none) := by
  obtain ⟨copied, success, bytes⟩ := message.memcpy_ok fits
  refine ⟨copied, bytes, ?_⟩
  have first : packet[0]? = some (ZMQ.Message.ofStorage copied).header.vehicleId := by
    have found : copied.bytes[0]? = some (ZMQ.Message.ofStorage copied).header.vehicleId :=
      copied.getElem?_byteAt (by decide)
    rw [bytes, List.getElem?_append_left present] at found
    exact found
  have summed : copied.bytes.take (packet.length - 1) = packet.take (packet.length - 1) := by
    rw [bytes, List.take_append_of_le_length (Nat.sub_le _ _)]
  simp only [iterate, present, ↓reduceIte, success, bind, Except.bind, first,
    Option.some.injEq, subtractSize_ok (show ZMQ.sizeofFooter ≤ packet.length from present),
    copied.read_ok (show packet.length - ZMQ.sizeofFooter ≤ ZMQ.sizeofMessage by omega), summed]
  by_cases own : (ZMQ.Message.ofStorage copied).header.vehicleId = vehicleId
  · by_cases valid : (ZMQ.Message.ofStorage copied).footer.checksum =
        Checksum.crc8ccitt (packet.take (packet.length - 1)) Checksum.crc8ccittSeed
    · simp [own, valid, pure, Except.pure]
    · simp [own, valid, Ne.symm valid, pure, Except.pure]
  · simp [own, pure, Except.pure]

/-- A longer packet than the message object is written past its end, whichever
vehicle it claims to come from. -/
theorem iterate_overflow (vehicleId : Byte) (message : Storage ZMQ.sizeofMessage)
    {packet : List Byte} (long : ¬ packet.length ≤ ZMQ.sizeofMessage) :
    iterate vehicleId message (some packet) =
      .error (.writeOutside packet.length ZMQ.sizeofMessage) := by
  have present : packet.length > 0 := by omega
  simp only [iterate, present, ↓reduceIte, message.memcpy_overflow long, bind, Except.bind]

theorem iterate_ok_iff (vehicleId : Byte) (message : Storage ZMQ.sizeofMessage)
    (result : Option (List Byte)) :
    (∃ outcome, iterate vehicleId message result = .ok outcome) ↔
      ∀ packet, result = some packet → packet.length ≤ ZMQ.sizeofMessage := by
  constructor
  · rintro ⟨outcome, success⟩ packet rfl
    by_cases fits : packet.length ≤ ZMQ.sizeofMessage
    · exact fits
    · rw [iterate_overflow vehicleId message fits] at success
      cases success
  · intro fits
    cases result with
    | none => exact ⟨_, iterate_timeout vehicleId message⟩
    | some packet =>
      by_cases present : 0 < packet.length
      · obtain ⟨copied, _, success⟩ := iterate_fits vehicleId message present (fits packet rfl)
        exact ⟨_, success⟩
      · have empty : packet = [] := List.eq_nil_of_length_eq_zero (Nat.eq_zero_of_not_pos present)
        subst packet
        exact ⟨_, iterate_empty vehicleId message⟩

theorem decode_self {vehicleId : Byte} {packet bytes : List Byte}
    (decoded : decode vehicleId packet = some bytes) : bytes = packet := by
  unfold decode at decoded
  split at decoded
  · exact (Option.some.inj decoded).symm
  · cases decoded

theorem decode_truncated (vehicleId : Byte) {packet : List Byte}
    (truncated : packet.length ≠ ZMQ.sizeofMessage) : decode vehicleId packet = none :=
  if_neg fun whole => truncated whole.1

/-- On a whole packet the old content plays no part. -/
theorem iterate_whole (vehicleId : Byte) (message : Storage ZMQ.sizeofMessage) {packet : List Byte}
    (whole : packet.length = ZMQ.sizeofMessage) :
    iterate vehicleId message (some packet) = .ok (⟨packet, whole⟩,
      (decode vehicleId packet).map fun _ => ZMQ.Message.ofStorage ⟨packet, whole⟩) := by
  have sized : packet.length = 35 := whole
  have present : 0 < packet.length := by omega
  obtain ⟨copied, bytes, success⟩ := iterate_fits vehicleId message present (Nat.le_of_eq whole)
  have same : copied = ⟨packet, whole⟩ := by
    apply Storage.ext
    rw [bytes, List.drop_eq_nil_of_le (by rw [message.sized, whole]), List.append_nil]
  have last : packet[34]? =
      some (ZMQ.Message.ofStorage (⟨packet, whole⟩ : Storage ZMQ.sizeofMessage)).footer.checksum :=
    Storage.getElem?_byteAt (⟨packet, whole⟩ : Storage ZMQ.sizeofMessage) (by decide)
  subst copied
  rw [success, decode, last]
  simp only [sized, true_and, Option.some.injEq, Nat.add_one_sub_one]
  split <;> rfl

/-- A published frame decodes under its sender's id only. -/
theorem decode_frame (vehicleId sender : Byte) (payload : ZMQ.Payload) :
    decode vehicleId (ZmqPublish.frame sender payload).bytes =
      if sender = vehicleId then some (ZmqPublish.frame sender payload).bytes else none := by
  have first : (ZmqPublish.frame sender payload).bytes[0]? = some sender := rfl
  have front : (ZmqPublish.frame sender payload).bytes.take 34 =
      ZmqPublish.covered sender payload := by
    rw [ZmqPublish.frame_bytes]
    exact List.take_left' (ZmqPublish.covered_length sender payload)
  have last : (ZmqPublish.frame sender payload).bytes[34]? =
      some (Checksum.crc8ccitt (ZmqPublish.covered sender payload) Checksum.crc8ccittSeed) := by
    have sized : (ZmqPublish.covered sender payload).length = 34 :=
      ZmqPublish.covered_length sender payload
    rw [ZmqPublish.frame_bytes, List.getElem?_append_right (Nat.le_of_eq sized), sized]
    rfl
  simp only [decode, ZMQ.Message.bytes_length, first, last, front, Option.some.injEq, and_true,
    true_and]

/-- A published frame replaces the whole message object, and is emitted as it was
sent exactly to the subscribers of its sender. -/
theorem iterate_frame (vehicleId sender : Byte) (payload : ZMQ.Payload)
    (message : Storage ZMQ.sizeofMessage) :
    iterate vehicleId message (some (ZmqPublish.frame sender payload).bytes) =
      .ok ((ZmqPublish.frame sender payload).storage,
        if sender = vehicleId then some (ZmqPublish.frame sender payload) else none) := by
  rw [iterate_whole vehicleId message (ZMQ.Message.bytes_length _), decode_frame]
  have same := ZMQ.Message.ofStorage_storage (ZmqPublish.frame sender payload)
  by_cases own : sender = vehicleId
  · simp only [own, ↓reduceIte, Option.map_some]
    rw [own] at same
    exact congrArg (fun emitted => Except.ok (_, some emitted)) same
  · simp only [own, ↓reduceIte, Option.map_none]
    rfl

/-- A truncated packet leaves the checksum byte of the object as it was. -/
theorem truncated_checksum {message copied : Storage ZMQ.sizeofMessage} {packet : List Byte}
    (short : packet.length < ZMQ.sizeofMessage)
    (bytes : copied.bytes = packet ++ message.bytes.drop packet.length) :
    (ZMQ.Message.ofStorage copied).footer.checksum =
      (ZMQ.Message.ofStorage message).footer.checksum := by
  have within : packet.length ≤ 34 := Nat.le_of_lt_succ short
  have kept : copied.bytes[34]? = some (ZMQ.Message.ofStorage message).footer.checksum := by
    rw [bytes, List.getElem?_append_right within, List.getElem?_drop, Nat.add_sub_of_le within]
    exact message.getElem?_byteAt (by decide)
  have inside : 34 < ZMQ.sizeofMessage := by decide
  have read := copied.getElem?_byteAt inside
  exact Option.some.inj (read.symm.trans kept)

/-- On a truncated packet the object is emitted exactly on a stale match. -/
theorem iterate_truncated (vehicleId : Byte) (message : Storage ZMQ.sizeofMessage)
    {packet : List Byte} (present : 0 < packet.length)
    (short : packet.length < ZMQ.sizeofMessage) :
    (StaleMatch vehicleId message (some packet) →
      ∃ copied, iterate vehicleId message (some packet) =
        .ok (copied, some (ZMQ.Message.ofStorage copied))) ∧
    (¬ StaleMatch vehicleId message (some packet) →
      ∃ copied, iterate vehicleId message (some packet) = .ok (copied, none)) := by
  obtain ⟨copied, bytes, success⟩ := iterate_fits vehicleId message present (Nat.le_of_lt short)
  rw [truncated_checksum short bytes] at success
  constructor
  · rintro ⟨other, same, _, _, own, stale⟩
    cases same
    exact ⟨copied, by rw [success, if_pos ⟨own, stale⟩]⟩
  · intro fresh
    refine ⟨copied, ?_⟩
    rw [success, if_neg]
    rintro ⟨own, stale⟩
    exact fresh ⟨packet, rfl, present, short, own, stale⟩

/-- A packet that carries no stale match is emitted exactly as it decodes alone. -/
theorem decodes (vehicleId : Byte) :
    Transducer.Decodes (Transducer.mapOutput ZMQ.Message.bytes (iterate vehicleId))
      (fun result => result.bind (decode vehicleId))
      (fun message result => ¬ StaleMatch vehicleId message result)
      (fun result => ∀ packet, result = some packet → packet.length ≤ ZMQ.sizeofMessage) := by
  constructor
  · intro message result admitted fresh
    cases result with
    | none => exact ⟨message, rfl⟩
    | some packet =>
      rcases Nat.lt_or_eq_of_le (admitted packet rfl) with short | whole
      · rw [Option.bind_some, decode_truncated vehicleId (Nat.ne_of_lt short)]
        by_cases present : 0 < packet.length
        · obtain ⟨copied, success⟩ := (iterate_truncated vehicleId message present short).2 fresh
          exact ⟨copied, by rw [Transducer.mapOutput, success]; rfl⟩
        · have empty : packet = [] := List.eq_nil_of_length_eq_zero (Nat.eq_zero_of_not_pos present)
          subst packet
          exact ⟨message, rfl⟩
      · refine ⟨⟨packet, whole⟩, ?_⟩
        rw [Transducer.mapOutput, iterate_whole vehicleId message whole, Option.bind_some]
        cases decoded : decode vehicleId packet with
        | none => rfl
        | some bytes =>
          rw [decode_self decoded]
          simp [Except.map, ZMQ.Message.ofStorage_bytes]
  · intro message result _ stale
    obtain ⟨packet, rfl, present, short, own, passed⟩ := Classical.not_not.mp stale
    obtain ⟨copied, success⟩ := (iterate_truncated vehicleId message present short).1
      ⟨packet, rfl, present, short, own, passed⟩
    refine ⟨decode_truncated vehicleId (Nat.ne_of_lt short), copied, copied.bytes, ?_⟩
    rw [Transducer.mapOutput, success]
    simp [Except.map, ZMQ.Message.ofStorage_bytes]

/-! ## The whole loop -/

/-- The loop stays inside its message object exactly as long as no packet is
longer than that object. -/
theorem run_safe_iff (vehicleId : Byte) (message : Storage ZMQ.sizeofMessage)
    (results : List (Option (List Byte))) :
    (∃ outcome, run vehicleId message results = .ok outcome) ↔
      ∀ packet, some packet ∈ results → packet.length ≤ ZMQ.sizeofMessage := by
  have exact := Transducer.drive_ok_iff
    (fun result => ∀ packet, result = some packet → packet.length ≤ ZMQ.sizeofMessage)
    (iterate_ok_iff vehicleId) message results
  rw [run, exact]
  constructor
  · intro safe packet member
    exact safe (some packet) member packet rfl
  · rintro safe _ member packet rfl
    exact safe packet member

/-- One byte more than the message object, from any peer, is enough. -/
theorem run_overflows :
    ¬ ∀ (vehicleId : Byte) (message : Storage ZMQ.sizeofMessage) (results : List (Option (List Byte))),
      ∃ outcome, run vehicleId message results = .ok outcome := by
  intro safe
  obtain ⟨outcome, success⟩ :=
    safe ZMQ.vehicleIdLeader (Storage.zeros 35) [some (List.replicate 36 0)]
  have failed : run ZMQ.vehicleIdLeader (Storage.zeros 35) [some (List.replicate 36 0)] =
      .error (.writeOutside 36 35) := rfl
  rw [failed] at success
  cases success

/-- The emitted messages are those of the stateless decoder exactly when no
packet of the run is a stale match for the object it finds. -/
theorem run_decodes_iff (vehicleId : Byte) (message : Storage ZMQ.sizeofMessage)
    (results : List (Option (List Byte)))
    (admitted : ∀ packet, some packet ∈ results → packet.length ≤ ZMQ.sizeofMessage) :
    (∃ final emitted, run vehicleId message results = .ok (final, emitted) ∧
      emitted.map ZMQ.Message.bytes = results.filterMap fun result => result.bind (decode vehicleId)) ↔
    Transducer.Along (iterate vehicleId) (fun message result => ¬ StaleMatch vehicleId message result)
      message results := by
  have allowed : ∀ result ∈ results, ∀ packet, result = some packet →
      packet.length ≤ ZMQ.sizeofMessage := by
    rintro _ member packet rfl
    exact admitted packet member
  rw [← Transducer.along_mapOutput ZMQ.Message.bytes,
    ← (decodes vehicleId).drive_eq_iff message results allowed, Transducer.drive_mapOutput, run]
  cases Transducer.drive (iterate vehicleId) message results with
  | error fault => simp [Except.map]
  | ok outcome =>
    obtain ⟨final, emitted⟩ := outcome
    simp [Except.map]

/-- A genuine frame of the leader: zero payload, checksum 0xBB. -/
def leaderFrame : List Byte := [0x01, 0x01] ++ List.replicate 32 0x00 ++ [0xBB]

/-- Three bytes whose first two have the checksum of `leaderFrame`. -/
def truncatedFrame : List Byte := [0x01, 0x9E, 0x07]

theorem run_decodes_leaderFrame :
    ∃ final emitted,
      run ZMQ.vehicleIdLeader (Storage.zeros 35) [none, some leaderFrame] = .ok (final, emitted) ∧
      emitted.map ZMQ.Message.bytes = [none, some leaderFrame].filterMap fun result =>
        result.bind (decode ZMQ.vehicleIdLeader) := by
  refine (run_decodes_iff ZMQ.vehicleIdLeader (Storage.zeros 35) [none, some leaderFrame] ?_).mpr ?_
  · intro packet member
    obtain rfl : packet = leaderFrame := by simpa using member
    decide
  · refine ⟨?_, fun _ _ _ => ⟨?_, fun _ _ _ => trivial⟩⟩
    · rintro ⟨packet, same, _⟩
      cases same
    · rintro ⟨packet, same, _, short, _⟩
      cases same
      exact absurd short (by decide)

/-- The truncated packet is emitted with the leader's payload bytes and checksum,
left in the object by the frame before it. -/
theorem run_emits_stale :
    ¬ ∀ (vehicleId : Byte) (message : Storage ZMQ.sizeofMessage) (results : List (Option (List Byte))),
      (∀ packet, some packet ∈ results → packet.length ≤ ZMQ.sizeofMessage) →
      ∃ final emitted, run vehicleId message results = .ok (final, emitted) ∧
        emitted.map ZMQ.Message.bytes =
          results.filterMap fun result => result.bind (decode vehicleId) := by
  intro faithful
  obtain ⟨final, emitted, success, same⟩ := faithful ZMQ.vehicleIdLeader (Storage.zeros 35)
    [some leaderFrame, some truncatedFrame] (by
      intro packet member
      have cases : packet = leaderFrame ∨ packet = truncatedFrame := by simpa using member
      rcases cases with rfl | rfl <;> decide)
  have twice : (run ZMQ.vehicleIdLeader (Storage.zeros 35)
      [some leaderFrame, some truncatedFrame]).toOption.map (fun outcome =>
        outcome.2.map ZMQ.Message.bytes) =
      some [leaderFrame, truncatedFrame ++ List.replicate 31 0x00 ++ [0xBB]] := by
    decide +kernel
  have once : [some leaderFrame, some truncatedFrame].filterMap (fun result =>
      result.bind (decode ZMQ.vehicleIdLeader)) = [leaderFrame] := by
    decide +kernel
  rw [success, Except.toOption, Option.map_some, same, once] at twice
  exact absurd twice (by decide)

end VehicleRunner.Bundle.ZmqSubscribe
