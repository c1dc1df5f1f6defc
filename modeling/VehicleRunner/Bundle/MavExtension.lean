import VehicleRunner.Bundle.MavVehicle

/-! Incoming MAVLink messages at a `MavVehicle_Impl`: the interception every message goes
through first, and the passthrough callback for those the library goes on with. -/

namespace VehicleRunner.Bundle.MavVehicle

open VehicleRunner.Foundation

/-- `MAVLINK_MSG_ID_V2_EXTENSION`. -/
def msgIdV2Extension : BitVec 24 := 248

/-- `MAVMSG_COMP_ID_FCS`. -/
def compIdFcs : Byte := 195

/-- A message as the library passes it around. -/
structure MavlinkMessage where
  systemId : Byte
  componentId : Byte
  msgid : BitVec 24
  payload : List Byte
  deriving DecidableEq

/-- What `_sigExtensionMessageArrived` is fired with. -/
structure Arrived where
  messageType : BitVec 16
  payload : List Byte
  deriving DecidableEq

def V2Extension.arrived (extension : V2Extension) : Arrived :=
  ⟨extension.messageType, extension.payload.bytes⟩

section

-- The decoder generated for the message.
variable (decode : MavlinkMessage → V2Extension)

/-- Whether the library goes on with the message, and what is fired. -/
def onMavInterceptIncoming (message : MavlinkMessage) : Bool × List Arrived :=
  if message.msgid ≠ msgIdV2Extension then (true, [])
  else
    let extension := decode message
    if extension.targetComponent ≠ compIdFcs then (true, [])
    else (false, [extension.arrived])

def onMavMessageExtension (message : MavlinkMessage) : List Arrived :=
  let extension := decode message
  if extension.targetComponent = compIdFcs then [extension.arrived] else []

/-- The callback is subscribed on the passthrough plugin. -/
def State.extensionSubscribed (state : State) : Bool := state.passthru.any Plugin.subscribed

/-- What is fired, and what the library goes on with, in order. -/
structure Delivery where
  fired : List Arrived
  passed : List MavlinkMessage
  deriving DecidableEq

/-- One message, in the state it finds the object in. -/
def receive (state : State) (message : MavlinkMessage) : Delivery :=
  match onMavInterceptIncoming decode message with
  | (false, fired) => ⟨fired, []⟩
  | (true, fired) =>
    if state.extensionSubscribed && message.msgid == msgIdV2Extension then
      ⟨fired ++ onMavMessageExtension decode message, [message]⟩
    else ⟨fired, [message]⟩

def deliver : List (State × MavlinkMessage) → Delivery
  | [] => ⟨[], []⟩
  | (state, message) :: later =>
    let first := receive decode state message
    let rest := deliver later
    ⟨first.fired ++ rest.fired, first.passed ++ rest.passed⟩

end

/-- An extension message as its sender fills it, with no more payload than fits. -/
structure Sent where
  messageType : BitVec 16
  targetNetwork : Byte
  targetSystem : Byte
  targetComponent : Byte
  payload : List Byte
  fits : payload.length ≤ extensionPayloadLength

/-- The fields sent, with the payload extended by zeros. -/
def Sent.extension (sent : Sent) : V2Extension where
  messageType := sent.messageType
  targetNetwork := sent.targetNetwork
  targetSystem := sent.targetSystem
  targetComponent := sent.targetComponent
  payload := ⟨sent.payload ++ List.replicate (extensionPayloadLength - sent.payload.length) 0, by
    rw [List.length_append, List.length_replicate]
    exact Nat.add_sub_cancel' sent.fits⟩

variable {Frame : Type}

/-- An extension message in a frame of its own (its sender, say), or any other message. -/
inductive Incoming (Frame : Type) where
  | extension (frame : Frame) (sent : Sent)
  | other (message : MavlinkMessage) (different : message.msgid ≠ msgIdV2Extension)

def Incoming.message (encode : Frame → Sent → MavlinkMessage) : Incoming Frame → MavlinkMessage
  | .extension frame sent => encode frame sent
  | .other message _ => message

/-- What an extension message for the flight computer is worth. -/
def Incoming.wanted : Incoming Frame → Option Arrived
  | .extension _ sent => if sent.targetComponent = compIdFcs then some sent.extension.arrived else none
  | .other _ _ => none

variable {encode : Frame → Sent → MavlinkMessage} {decode : MavlinkMessage → V2Extension}

/-- Both filters ask for the same component, so what is passed on is not fired again. -/
theorem receive_message (encoded : ∀ frame sent, (encode frame sent).msgid = msgIdV2Extension)
    (decoded : ∀ frame sent, decode (encode frame sent) = sent.extension) (state : State)
    (incoming : Incoming Frame) :
    receive decode state (incoming.message encode) =
      ⟨incoming.wanted.toList, if incoming.wanted.isNone then [incoming.message encode] else []⟩ := by
  cases incoming with
  | other message different =>
    have intercepted : onMavInterceptIncoming decode message = (true, []) := if_pos different
    simp [receive, Incoming.message, Incoming.wanted, intercepted, different]
  | extension frame sent =>
    by_cases ours : sent.targetComponent = compIdFcs
    · have intercepted : onMavInterceptIncoming decode (encode frame sent) = (false, [sent.extension.arrived]) := by
        simp [onMavInterceptIncoming, encoded, decoded, Sent.extension, ours]
      simp [receive, Incoming.message, Incoming.wanted, intercepted, ours]
    · have intercepted : onMavInterceptIncoming decode (encode frame sent) = (true, []) := by
        simp [onMavInterceptIncoming, encoded, decoded, Sent.extension, ours]
      have silent : onMavMessageExtension decode (encode frame sent) = [] := by
        simp [onMavMessageExtension, decoded, Sent.extension, ours]
      simp [receive, Incoming.message, Incoming.wanted, intercepted, silent, ours]

/-- In whatever states the messages find the object, exactly the extension messages for
the flight computer are fired, each once and in order, and all others are passed on. -/
theorem extensions_delivered (encode : Frame → Sent → MavlinkMessage)
    (decode : MavlinkMessage → V2Extension)
    (encoded : ∀ frame sent, (encode frame sent).msgid = msgIdV2Extension)
    (decoded : ∀ frame sent, decode (encode frame sent) = sent.extension)
    (arrivals : List (State × Incoming Frame)) :
    deliver decode (arrivals.map fun arrival => (arrival.1, arrival.2.message encode)) =
      ⟨arrivals.filterMap fun arrival => arrival.2.wanted,
        (arrivals.filter fun arrival => arrival.2.wanted.isNone).map
          fun arrival => arrival.2.message encode⟩ := by
  induction arrivals with
  | nil => rfl
  | cons arrival arrivals ih =>
    rw [List.map_cons, deliver, ih, receive_message encoded decoded]
    cases wanted : arrival.2.wanted with
    | none => simp [wanted]
    | some arrived => simp [wanted]

/-! ## A codec of the kind -/

/-- The fields in the order they are sent in. -/
def V2Extension.bytes (extension : V2Extension) : List Byte :=
  [extension.messageType.extractLsb' 0 8, extension.messageType.extractLsb' 8 8, extension.targetNetwork,
    extension.targetSystem, extension.targetComponent] ++ extension.payload.bytes

/-- Zeros at the end are not sent. -/
def trim (bytes : List Byte) : List Byte := bytes.rdropWhile (· == 0)

def untrim (size : Nat) (bytes : List Byte) : List Byte :=
  bytes ++ List.replicate (size - bytes.length) 0

theorem untrim_trim (bytes : List Byte) : untrim bytes.length (trim bytes) = bytes := by
  have whole := List.rdropWhile_append_rtakeWhile (p := (· == (0 : Byte))) (l := bytes)
  have zeros : bytes.rtakeWhile (· == 0) =
      List.replicate (bytes.length - (trim bytes).length) 0 := by
    apply List.eq_replicate_iff.mpr
    constructor
    · have sizes := congrArg List.length whole
      rw [List.length_append] at sizes
      rw [trim]
      omega
    · intro byte member
      have zero := List.mem_rtakeWhile_imp member
      exact beq_iff_eq.mp zero
  rw [untrim, ← zeros]
  exact whole

/-- `MAVLINK_MSG_ID_V2_EXTENSION_LEN`. -/
abbrev extensionLength : Nat := 254

theorem V2Extension.bytes_length (extension : V2Extension) : extension.bytes.length = extensionLength := by
  rw [V2Extension.bytes, List.length_append, extension.payload.sized]
  rfl

theorem untrim_length (size : Nat) (bytes : List Byte) : size ≤ (untrim size bytes).length := by
  rw [untrim, List.length_append, List.length_replicate]
  omega

/-- The system and the component that send a message. -/
abbrev Sender : Type := Byte × Byte

def encodeExtension (sender : Sender) (sent : Sent) : MavlinkMessage where
  systemId := sender.1
  componentId := sender.2
  msgid := msgIdV2Extension
  payload := trim sent.extension.bytes

def decodeExtension (message : MavlinkMessage) : V2Extension :=
  let bytes := untrim extensionLength message.payload
  { messageType := bytes.getD 1 0 ++ bytes.getD 0 0
    targetNetwork := bytes.getD 2 0
    targetSystem := bytes.getD 3 0
    targetComponent := bytes.getD 4 0
    payload := ⟨(bytes.drop 5).take extensionPayloadLength, by
      have enough : 254 ≤ bytes.length := untrim_length extensionLength message.payload
      have size : extensionPayloadLength = 249 := rfl
      rw [List.length_take, List.length_drop]
      omega⟩ }

theorem decode_encodeExtension (sender : Sender) (sent : Sent) :
    decodeExtension (encodeExtension sender sent) = sent.extension := by
  have whole : untrim extensionLength (trim sent.extension.bytes) = sent.extension.bytes := by
    rw [← V2Extension.bytes_length sent.extension]
    exact untrim_trim sent.extension.bytes
  have payload : (sent.extension.bytes.drop 5).take extensionPayloadLength =
      sent.extension.payload.bytes := List.take_of_length_le (Nat.le_of_eq sent.extension.payload.sized)
  have messageType : sent.messageType.extractLsb' 8 8 ++ sent.messageType.extractLsb' 0 8 =
      sent.messageType := by
    rw [BitVec.extractLsb'_append_extractLsb'_eq_extractLsb' (by rfl)]
    simp
  simp only [decodeExtension, encodeExtension, whole, payload]
  simp [V2Extension.bytes, Sent.extension, messageType]

/-- A heartbeat, and an extension message for a component. -/
def heartbeat : MavlinkMessage := ⟨1, 1, 0, [0, 0, 0, 0, 2, 12, 0, 0, 3]⟩

def extensionFor (component : Byte) : Sent := ⟨40001, 0, 0, component, [0, 1], by decide⟩

/-- Messages before a connection and under a subscription. -/
def mixedArrivals : List (State × Incoming Sender) :=
  let connected : State := { config := ⟨"udp://:14550", false, false⟩, passthru := some ⟨0, true⟩ }
  [({ config := ⟨"udp://:14550", false, false⟩ }, .extension (1, 1) (extensionFor compIdFcs)),
    (connected, .extension (1, 1) (extensionFor 190)),
    (connected, .other heartbeat (by decide)),
    (connected, .extension (2, 190) (extensionFor compIdFcs))]

theorem extensions_delivered_mixed :
    deliver decodeExtension (mixedArrivals.map fun arrival => (arrival.1, arrival.2.message encodeExtension)) =
      ⟨[(extensionFor compIdFcs).extension.arrived, (extensionFor compIdFcs).extension.arrived],
        [encodeExtension (1, 1) (extensionFor 190), heartbeat]⟩ :=
  extensions_delivered encodeExtension decodeExtension (fun _ _ => rfl) decode_encodeExtension mixedArrivals

end VehicleRunner.Bundle.MavVehicle
