import VehicleRunner.Foundation.LossyLink
import VehicleRunner.App.Agreement
import VehicleRunner.Plugin.RoundTrip

/-! The swarm at work: every vehicle publishes, receives over its subscriptions and
consumes its events, in any interleaving, over a network that may drop frames. -/

namespace VehicleRunner.Swarm

open VehicleRunner.Foundation VehicleRunner.Bundle VehicleRunner.Plugin VehicleRunner.App

variable {ι : Type}

/-- One subscription: the packets at its socket, its thread's message object, the
message emitted and not yet taken by the slot, and for each publisher how many of
its frames have arrived or been dropped. -/
structure Receiver (ι : Type) where
  queue : List (List Byte)
  message : Storage ZMQ.sizeofMessage
  pending : Option ZMQ.Message
  passed : ι → Nat
  fault : Option Fault

/-- One vehicle. `published` and `popped` record the calls of `Publish` and the
events the loop took; the code does not see them. -/
structure Node (ι : Type) where
  swarm : SmallSwarm.State
  receivers : Nat → Receiver ι
  sent : List (List Byte)
  published : List ZMQ.Payload
  popped : List SmallSwarm.EventText

abbrev State (ι : Type) := ι → Node ι

/-- A message object holds whatever its memory held before. -/
def initial (nowMs : ι → Int) (message : ι → Nat → Storage ZMQ.sizeofMessage) : State ι :=
  fun vehicle =>
    { swarm := SmallSwarm.initial (nowMs vehicle)
      receivers := fun subscription =>
        { queue := []
          message := message vehicle subscription
          pending := none
          passed := fun _ => 0
          fault := none }
      sent := []
      published := []
      popped := [] }

/-- A call of `Publish` with a payload. -/
def Node.publish (config : ZmqPublish.Config) (payload : ZMQ.Payload) (node : Node ι) : Node ι :=
  { node with
    sent := node.sent ++ (ZmqPublish.publish config ZMQ.msgVehiclePayload payload).2.toList
    published := node.published ++ [payload] }

def Node.receive (subscription : Nat) (receiver : Receiver ι) (node : Node ι) : Node ι :=
  { node with receivers := Function.update node.receivers subscription receiver }

/-- The publisher's frame of this index comes in; earlier ones that did not are lost. -/
def Receiver.arrive [DecidableEq ι] (publisher : ι) (index : Nat) (packet : List Byte) (receiver : Receiver ι) :
    Receiver ι :=
  { receiver with
    queue := receiver.queue ++ [packet]
    passed := Function.update receiver.passed publisher (index + 1) }

/-- One turn of the receive loop, on the oldest packet or on none. -/
def Receiver.iterate (vehicleId : Byte) (receiver : Receiver ι) : Receiver ι :=
  match ZmqSubscribe.iterate vehicleId receiver.message receiver.queue.head? with
  | .ok (message, emitted) =>
    { receiver with queue := receiver.queue.tail, message := message, pending := emitted }
  | .error fault => { receiver with fault := some fault }

/-- The loop's own step, with the event it took or the payload it published. -/
def Node.loop (config : ZmqPublish.Config) (action : SmallSwarm.Action) (next : SmallSwarm.State)
    (node : Node ι) : Node ι :=
  match action with
  | .popFront =>
    { node with
      swarm := next
      popped := node.popped ++ (node.swarm.eventBuffer.popFront?.map Prod.fst).toList }
  | .publish => { node with swarm := next }.publish config (SmallSwarm.broadcast node.swarm)
  | _ => { node with swarm := next }

/-- The loop's own actions; the slot belongs to a subscriber's thread. -/
def ofLoop : SmallSwarm.Action → Bool
  | .slot _ => false
  | _ => true

inductive Action (ι : Type) where
  | publish (vehicle : ι) (payload : ZMQ.Payload)
  | arrive (publisher subscriber : ι) (subscription index : Nat)
  | iterate (vehicle : ι) (subscription : Nat)
  | slot (vehicle : ι) (subscription : Nat)
  | loop (vehicle : ι) (action : SmallSwarm.Action)

/-- The vehicles of a swarm, and the URL each one publishes at. -/
structure Peers (ι : Type) where
  vehicle : ι → Vehicle
  url : ι → String

def Peers.step [DecidableEq ι] (peers : Peers ι) (state : State ι) : Action ι → Option (State ι)
  | .publish vehicle payload =>
    some (Function.update state vehicle
      ((state vehicle).publish (peers.vehicle vehicle).publish payload))
  | .arrive publisher subscriber subscription index => do
    let config ← (peers.vehicle subscriber).subscribes[subscription]?
    let packet ← (state publisher).sent[index]?
    let receiver := (state subscriber).receivers subscription
    if config.remoteUrl = peers.url publisher ∧ receiver.passed publisher ≤ index then
      return Function.update state subscriber
        ((state subscriber).receive subscription (receiver.arrive publisher index packet))
    else none
  | .iterate vehicle subscription => do
    let config ← (peers.vehicle vehicle).subscribes[subscription]?
    let receiver := (state vehicle).receivers subscription
    -- The slot runs inside the iteration that emitted the message.
    if receiver.pending = none ∧ receiver.fault = none then
      return Function.update state vehicle
        ((state vehicle).receive subscription (receiver.iterate config.vehicleId))
    else none
  | .slot vehicle subscription => do
    let node := state vehicle
    let receiver := node.receivers subscription
    let message ← receiver.pending
    let next ← SmallSwarm.step node.swarm (.slot message)
    return Function.update state vehicle
      ({ node with swarm := next }.receive subscription { receiver with pending := none })
  | .loop vehicle action => do
    let node := state vehicle
    if ofLoop action then
      let next ← SmallSwarm.step node.swarm action
      return Function.update state vehicle
        (node.loop (peers.vehicle vehicle).publish action next)
    else none

theorem Node.loop_swarm (config : ZmqPublish.Config) (action : SmallSwarm.Action)
    (next : SmallSwarm.State) (node : Node ι) : (node.loop config action next).swarm = next := by
  cases action <;> rfl

variable [DecidableEq ι]

/-- Everything a step of the swarm can be. -/
inductive Stepped (peers : Peers ι) (state : State ι) : Action ι → State ι → Prop where
  | publish (vehicle : ι) (payload : ZMQ.Payload) :
      Stepped peers state (.publish vehicle payload) (Function.update state vehicle
        ((state vehicle).publish (peers.vehicle vehicle).publish payload))
  | arrive (found : (peers.vehicle subscriber).subscribes[subscription]? = some config)
      (sent : (state publisher).sent[index]? = some packet)
      (connected : config.remoteUrl = peers.url publisher)
      (later : ((state subscriber).receivers subscription).passed publisher ≤ index) :
      Stepped peers state (.arrive publisher subscriber subscription index)
        (Function.update state subscriber ((state subscriber).receive subscription
          (((state subscriber).receivers subscription).arrive publisher index packet)))
  | iterate (found : (peers.vehicle vehicle).subscribes[subscription]? = some config)
      (idle : ((state vehicle).receivers subscription).pending = none)
      (running : ((state vehicle).receivers subscription).fault = none) :
      Stepped peers state (.iterate vehicle subscription)
        (Function.update state vehicle ((state vehicle).receive subscription
          (((state vehicle).receivers subscription).iterate config.vehicleId)))
  | slot (present : ((state vehicle).receivers subscription).pending = some message)
      (stepped : SmallSwarm.step (state vehicle).swarm (.slot message) = some swarm) :
      Stepped peers state (.slot vehicle subscription)
        (Function.update state vehicle ({ state vehicle with swarm := swarm }.receive subscription
          { (state vehicle).receivers subscription with pending := none }))
  | loop (own : ofLoop action = true)
      (stepped : SmallSwarm.step (state vehicle).swarm action = some swarm) :
      Stepped peers state (.loop vehicle action) (Function.update state vehicle
        ((state vehicle).loop (peers.vehicle vehicle).publish action swarm))

theorem Peers.step_cases {peers : Peers ι} {state next : State ι} {action : Action ι}
    (taken : peers.step state action = some next) : Stepped peers state action next := by
  cases action with
  | publish vehicle payload =>
    cases taken
    exact .publish vehicle payload
  | arrive publisher subscriber subscription index =>
    obtain ⟨config, found, taken⟩ := Option.bind_eq_some_iff.mp taken
    obtain ⟨packet, sent, taken⟩ := Option.bind_eq_some_iff.mp taken
    dsimp only at taken
    split at taken
    · rename_i allowed
      cases taken
      exact .arrive found sent allowed.1 allowed.2
    · cases taken
  | iterate vehicle subscription =>
    obtain ⟨config, found, taken⟩ := Option.bind_eq_some_iff.mp taken
    dsimp only at taken
    split at taken
    · rename_i allowed
      cases taken
      exact .iterate found allowed.1 allowed.2
    · cases taken
  | slot vehicle subscription =>
    obtain ⟨message, present, taken⟩ := Option.bind_eq_some_iff.mp taken
    obtain ⟨swarm, stepped, taken⟩ := Option.bind_eq_some_iff.mp taken
    cases taken
    exact .slot present stepped
  | loop vehicle action =>
    simp only [Peers.step] at taken
    split at taken
    · rename_i own
      obtain ⟨swarm, stepped, taken⟩ := Option.bind_eq_some_iff.mp taken
      cases taken
      exact .loop own stepped
    · cases taken

/-- Within the swarm a vehicle's ring and loop move only by their own steps. -/
theorem Peers.step_swarm {peers : Peers ι} {state next : State ι} {action : Action ι}
    (taken : peers.step state action = some next) (vehicle : ι) :
    (next vehicle).swarm = (state vehicle).swarm ∨
      ∃ own, SmallSwarm.step (state vehicle).swarm own = some (next vehicle).swarm := by
  have unmoved {changed : ι} {node : Node ι} (kept : node.swarm = (state changed).swarm) :
      (Function.update state changed node vehicle).swarm = (state vehicle).swarm := by
    by_cases same : vehicle = changed
    · subst same
      rw [Function.update_self, kept]
    · rw [Function.update_of_ne same]
  have moved {changed : ι} {node : Node ι} {own : SmallSwarm.Action}
      (stepped : SmallSwarm.step (state changed).swarm own = some node.swarm) :
      (Function.update state changed node vehicle).swarm = (state vehicle).swarm ∨
        ∃ own, SmallSwarm.step (state vehicle).swarm own =
          some (Function.update state changed node vehicle).swarm := by
    by_cases same : vehicle = changed
    · subst same
      exact .inr ⟨own, by rw [stepped, Function.update_self]⟩
    · exact .inl (by rw [Function.update_of_ne same])
  cases Peers.step_cases taken with
  | publish _ _ => exact .inl (unmoved rfl)
  | arrive _ _ _ _ => exact .inl (unmoved rfl)
  | iterate _ _ _ => exact .inl (unmoved rfl)
  | slot _ stepped => exact moved stepped
  | loop _ stepped => exact moved (by rw [Node.loop_swarm]; exact stepped)

/-- Every vehicle's ring and loop go through a run of their own. -/
theorem Peers.run_swarm {peers : Peers ι} {nowMs : ι → Int}
    {message : ι → Nat → Storage ZMQ.sizeofMessage} {actions : List (Action ι)} {state : State ι}
    (run : Run (Takes peers.step) (initial nowMs message) actions state) (vehicle : ι) :
    ∃ own, Run (Takes SmallSwarm.step) (SmallSwarm.initial (nowMs vehicle)) own
      (state vehicle).swarm := by
  induction run with
  | start => exact ⟨[], .start⟩
  | step _ taken ih =>
    obtain ⟨own, run⟩ := ih
    rcases Peers.step_swarm taken vehicle with same | ⟨action, stepped⟩
    · exact ⟨own, same ▸ run⟩
    · exact ⟨own ++ [action], .step run stepped⟩

end VehicleRunner.Swarm
