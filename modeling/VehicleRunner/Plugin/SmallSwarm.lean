import VehicleRunner.Foundation.Ring
import VehicleRunner.Bundle.MavVehicle
import VehicleRunner.Bundle.ZmqSubscribe

/-! `SmallSwarm_Impl`: the event ring the subscribers fill, and the loop that empties
it and broadcasts the vehicle's own telemetry. The loop is cut where another
thread may act in between: at every lock, clock reading and call. -/

namespace VehicleRunner.Plugin.SmallSwarm

open VehicleRunner.Foundation VehicleRunner.Bundle

/-- What the swarm is constructed from. Each component stands under its own
configuration. -/
structure Config where
  vehicleId : Byte
  mavVehicle : Option MavVehicle.Config
  zmqPublish : Option ZmqPublish.Config
  zmqSubscribes : Option (List ZmqSubscribe.Config)
  deriving DecidableEq

structure EventText where
  metadata : ZMQ.Header
  payload : ZMQ.Payload
  deriving DecidableEq

def publishTermMs : Int := 200
abbrev eventRingSize : Nat := 10

/-- The event a message is worth to the loop, if any. -/
def eventOf (message : ZMQ.Message) : Option EventText :=
  if message.header.messageId = ZMQ.msgVehiclePayload then
    some { metadata := message.header, payload := message.payload }
  else none

/-- The slot run by a subscriber's thread, with the buffer's lock held. -/
def slotZmqMessageArrived (eventBuffer : Ring EventText eventRingSize) (message : ZMQ.Message) :
    Ring EventText eventRingSize :=
  match eventOf message with
  | some event => eventBuffer.pushBack event
  | none => eventBuffer

/-- The payload broadcast for a position and a velocity. -/
def payloadOf (llh : MavVehicle.PositionLlh) (ned : MavVehicle.VelocityNed) : ZMQ.Payload where
  position :=
    { latitudeDeg := llh.latitudeDeg
      longitudeDeg := llh.longitudeDeg
      altitudeM := llh.relAltitudeM }
  velocity :=
    { northMps := ned.northMps
      eastMps := ned.eastMps
      downMps := ned.downMps }

/-- Where the loop stands. Taking the front of an empty ring is undefined. -/
inductive Point where
  | test | popFront | clock | getPosition | getVelocity | publish | undefined
  deriving DecidableEq

structure State where
  eventBuffer : Ring EventText eventRingSize
  eventText : Option EventText
  positionLlh : MavVehicle.PositionLlh
  velocityNed : MavVehicle.VelocityNed
  nowMs : Int
  pubMs : Int
  point : Point

/-- On entry to the loop, after the first clock reading. -/
def initial (nowMs : Int) : State where
  eventBuffer := .empty
  eventText := none
  positionLlh := {}
  velocityNed := {}
  nowMs := nowMs
  pubMs := nowMs
  point := .test

/-- What the loop does next, or a subscriber does to it. A getter carries what the
telemetry object reports then, and the clock its reading. -/
inductive Action where
  | slot (message : ZMQ.Message)
  | test
  | popFront
  | clock (nowMs : Int)
  | getPosition (telemetry : Option MavVehicle.Telemetry)
  | getVelocity (telemetry : Option MavVehicle.Telemetry)
  | publish
  deriving DecidableEq

/-- Front and pop of the ring, under its lock. -/
def popEvent (state : State) : State :=
  match state.eventBuffer.popFront? with
  | some (event, rest) =>
    { state with eventBuffer := rest, eventText := some event, point := .clock }
  | none => { state with point := .undefined }

/-- The comparison that decides whether this iteration broadcasts. -/
def readClock (nowMs : Int) (state : State) : State :=
  { state with
    nowMs := nowMs
    point := if nowMs - state.pubMs ≥ publishTermMs then .getPosition else .test }

def step (state : State) : Action → Option State
  | .slot message =>
    some { state with eventBuffer := slotZmqMessageArrived state.eventBuffer message }
  | .test =>
    if state.point = .test then
      some { state with point := if state.eventBuffer.isEmpty then .clock else .popFront }
    else none
  | .popFront => if state.point = .popFront then some (popEvent state) else none
  | .clock nowMs => if state.point = .clock then some (readClock nowMs state) else none
  | .getPosition telemetry =>
    -- The result code is discarded: the buffer is used whether or not it was written.
    if state.point = .getPosition then
      some { state with
        positionLlh := (MavVehicle.getPosition telemetry state.positionLlh).2
        point := .getVelocity }
    else none
  | .getVelocity telemetry =>
    if state.point = .getVelocity then
      some { state with
        velocityNed := (MavVehicle.getVelocity telemetry state.velocityNed).2
        point := .publish }
    else none
  | .publish =>
    if state.point = .publish then some { state with pubMs := state.nowMs, point := .test } else none

/-- The payload handed to the publisher by a publishing step. -/
def broadcast (state : State) : ZMQ.Payload := payloadOf state.positionLlh state.velocityNed

theorem eventOf_payload {message : ZMQ.Message}
    (payload : message.header.messageId = ZMQ.msgVehiclePayload) :
    eventOf message = some ⟨message.header, message.payload⟩ :=
  if_pos payload

theorem slot_event {message : ZMQ.Message} {event : EventText} (kept : eventOf message = some event)
    (eventBuffer : Ring EventText eventRingSize) :
    slotZmqMessageArrived eventBuffer message = eventBuffer.pushBack event := by
  simp [slotZmqMessageArrived, kept]

theorem slot_other {message : ZMQ.Message} (other : eventOf message = none)
    (eventBuffer : Ring EventText eventRingSize) :
    slotZmqMessageArrived eventBuffer message = eventBuffer := by
  simp [slotZmqMessageArrived, other]

/-- Everything a step of the loop or of a subscriber can be. -/
inductive Stepped (state : State) : Action → State → Prop where
  | slot (message : ZMQ.Message) : Stepped state (.slot message)
      { state with eventBuffer := slotZmqMessageArrived state.eventBuffer message }
  | idle (here : state.point = .test) (empty : state.eventBuffer.items = []) :
      Stepped state .test { state with point := .clock }
  | ready (here : state.point = .test) (filled : state.eventBuffer.items ≠ []) :
      Stepped state .test { state with point := .popFront }
  | popped (here : state.point = .popFront)
      (front : state.eventBuffer.popFront? = some (event, rest)) :
      Stepped state .popFront
        { state with eventBuffer := rest, eventText := some event, point := .clock }
  | undefined (here : state.point = .popFront) (empty : state.eventBuffer.popFront? = none) :
      Stepped state .popFront { state with point := .undefined }
  | due (here : state.point = .clock) (late : nowMs - state.pubMs ≥ publishTermMs) :
      Stepped state (.clock nowMs) { state with nowMs := nowMs, point := .getPosition }
  | early (here : state.point = .clock) (soon : ¬ nowMs - state.pubMs ≥ publishTermMs) :
      Stepped state (.clock nowMs) { state with nowMs := nowMs, point := .test }
  | getPosition (here : state.point = .getPosition) : Stepped state (.getPosition telemetry)
      { state with
        positionLlh := (MavVehicle.getPosition telemetry state.positionLlh).2
        point := .getVelocity }
  | getVelocity (here : state.point = .getVelocity) : Stepped state (.getVelocity telemetry)
      { state with
        velocityNed := (MavVehicle.getVelocity telemetry state.velocityNed).2
        point := .publish }
  | publish (here : state.point = .publish) :
      Stepped state .publish { state with pubMs := state.nowMs, point := .test }

private theorem guarded {condition : Prop} [Decidable condition] {value next : State}
    (taken : (if condition then some value else none) = some next) : condition ∧ value = next := by
  split at taken
  · exact ⟨by assumption, Option.some.inj taken⟩
  · cases taken

theorem step_cases {state next : State} {action : Action} (taken : step state action = some next) :
    Stepped state action next := by
  cases action with
  | slot message =>
    cases Option.some.inj taken
    exact .slot message
  | test =>
    obtain ⟨here, rfl⟩ := guarded taken
    cases empty : state.eventBuffer.isEmpty with
    | true => exact .idle here ((Ring.isEmpty_iff _).mp empty)
    | false =>
      exact .ready here fun none => by simp [(Ring.isEmpty_iff _).mpr none] at empty
  | popFront =>
    obtain ⟨here, rfl⟩ := guarded taken
    unfold popEvent
    cases front : state.eventBuffer.popFront? with
    | none => exact .undefined here front
    | some taken => exact .popped here front
  | clock nowMs =>
    obtain ⟨here, rfl⟩ := guarded taken
    unfold readClock
    by_cases late : nowMs - state.pubMs ≥ publishTermMs
    · simpa only [late, ↓reduceIte] using Stepped.due here late
    · simpa only [late, ↓reduceIte] using Stepped.early here late
  | getPosition telemetry =>
    obtain ⟨here, rfl⟩ := guarded taken
    exact .getPosition here
  | getVelocity telemetry =>
    obtain ⟨here, rfl⟩ := guarded taken
    exact .getVelocity here
  | publish =>
    obtain ⟨here, rfl⟩ := guarded taken
    exact .publish here

end VehicleRunner.Plugin.SmallSwarm
