import VehicleRunner.Bundle.ZmqSubscribe
import VehicleRunner.Plugin.SmallSwarm

/-! From one vehicle's `Publish` to another's event ring over a stream of packets. -/

namespace VehicleRunner.Plugin.SmallSwarm

open VehicleRunner.Foundation VehicleRunner.Bundle

/-- What `recv` returns for a call of `Publish` by some vehicle, or for a timeout. -/
def received (sent : Option (ZmqPublish.Config × ZMQ.Payload)) : Option (List Byte) :=
  sent.bind fun call => (ZmqPublish.publish call.1 ZMQ.msgVehiclePayload call.2).2

/-- The payload of a call made by the vehicle subscribed to. -/
def ownPayload (vehicleId : Byte) (sent : Option (ZmqPublish.Config × ZMQ.Payload)) :
    Option ZMQ.Payload :=
  sent.bind fun call => if call.1.vehicleId = vehicleId then some call.2 else none

/-- The event a vehicle's payload is worth. -/
def payloadEvent (vehicleId : Byte) (payload : ZMQ.Payload) : EventText where
  metadata := { vehicleId := vehicleId, messageId := ZMQ.msgVehiclePayload }
  payload := payload

theorem eventOf_frame (vehicleId : Byte) (payload : ZMQ.Payload) :
    eventOf (ZmqPublish.frame vehicleId payload) = some (payloadEvent vehicleId payload) :=
  eventOf_payload rfl

theorem received_frame (config : ZmqPublish.Config) (payload : ZMQ.Payload) :
    received (some (config, payload)) =
      some (ZmqPublish.frame config.vehicleId payload).bytes := by
  simp [received, ZmqPublish.publish_payload]

/-- The subscriber emits the frames of its vehicle, in order, and no others. -/
theorem run_received (vehicleId : Byte) (message : Storage ZMQ.sizeofMessage)
    (sent : List (Option (ZmqPublish.Config × ZMQ.Payload))) :
    ∃ final, ZmqSubscribe.run vehicleId message (sent.map received) = .ok (final,
      (sent.filterMap (ownPayload vehicleId)).map (ZmqPublish.frame vehicleId)) := by
  induction sent generalizing message with
  | nil => exact ⟨message, rfl⟩
  | cons call sent ih =>
    cases call with
    | none =>
      obtain ⟨final, rest⟩ := ih message
      refine ⟨final, ?_⟩
      have stepped : ZmqSubscribe.iterate vehicleId message (received none) = .ok (message, none) :=
        rfl
      simp only [ZmqSubscribe.run] at rest
      simp only [ZmqSubscribe.run, List.map_cons, Transducer.drive_cons_ok stepped, rest]
      rfl
    | some call =>
      obtain ⟨config, payload⟩ := call
      obtain ⟨final, rest⟩ := ih (ZmqPublish.frame config.vehicleId payload).storage
      refine ⟨final, ?_⟩
      have stepped := ZmqSubscribe.iterate_frame vehicleId config.vehicleId payload message
      rw [← received_frame config payload] at stepped
      simp only [ZmqSubscribe.run] at rest
      simp only [ZmqSubscribe.run, List.map_cons, Transducer.drive_cons_ok stepped, rest,
        Except.map]
      by_cases own : config.vehicleId = vehicleId
      · simp [ownPayload, own]
      · simp [ownPayload, own]

theorem foldl_slot_frames (vehicleId : Byte) (payloads : List ZMQ.Payload)
    (eventBuffer : Ring EventText eventRingSize) :
    (payloads.map (ZmqPublish.frame vehicleId)).foldl slotZmqMessageArrived eventBuffer =
      (payloads.map (payloadEvent vehicleId)).foldl Ring.pushBack eventBuffer := by
  induction payloads generalizing eventBuffer with
  | nil => rfl
  | cons payload payloads ih =>
    simp only [List.map_cons, List.foldl_cons, slot_event (eventOf_frame vehicleId payload), ih]

/-- Every `Publish` of a payload succeeds; of a stream of them, interleaved with
timeouts, a subscriber emits exactly its own vehicle's, in order and once each,
with their header and payload, whatever its message object held; and the slot
pushes exactly those headers and payloads. -/
theorem stream_round_trip (vehicleId : Byte) (message : Storage ZMQ.sizeofMessage)
    (sent : List (Option (ZmqPublish.Config × ZMQ.Payload))) :
    (∀ config payload, some (config, payload) ∈ sent →
      (ZmqPublish.publish config ZMQ.msgVehiclePayload payload).1 = 0) ∧
    ∃ final emitted,
      ZmqSubscribe.run vehicleId message (sent.map received) = .ok (final, emitted) ∧
      emitted.map (fun message => (message.header, message.payload)) =
        (sent.filterMap (ownPayload vehicleId)).map (fun payload =>
          (⟨vehicleId, ZMQ.msgVehiclePayload⟩, payload)) ∧
      ∀ eventBuffer, emitted.foldl slotZmqMessageArrived eventBuffer =
        ((sent.filterMap (ownPayload vehicleId)).map (fun payload =>
          EventText.mk ⟨vehicleId, ZMQ.msgVehiclePayload⟩ payload)).foldl Ring.pushBack eventBuffer := by
  constructor
  · intro config payload _
    rw [ZmqPublish.publish_payload]
  · obtain ⟨final, success⟩ := run_received vehicleId message sent
    refine ⟨final, _, success, ?_, fun eventBuffer => foldl_slot_frames _ _ eventBuffer⟩
    rw [List.map_map]
    rfl

end VehicleRunner.Plugin.SmallSwarm
