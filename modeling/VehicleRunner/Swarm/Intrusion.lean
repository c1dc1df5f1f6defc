import VehicleRunner.Swarm.Protocol

/-! The swarm on an open network: the sockets carry no authentication, so a subscription may
also be handed packets no vehicle published. What such packets can do stays with the
subscription they come in at. -/

namespace VehicleRunner.Swarm

open VehicleRunner.Foundation VehicleRunner.Bundle VehicleRunner.Plugin VehicleRunner.App

variable {ι : Type}

/-- The swarm takes a step, or a packet from elsewhere comes in at a subscription. -/
inductive Intrusion (ι : Type) where
  | swarm (action : Action ι)
  | inject (vehicle : ι) (subscription : Nat) (packet : List Byte)

def Receiver.inject (packet : List Byte) (receiver : Receiver ι) : Receiver ι :=
  { receiver with queue := receiver.queue ++ [packet] }

def Peers.intrude [DecidableEq ι] (peers : Peers ι) (state : State ι) : Intrusion ι → Option (State ι)
  | .swarm action => peers.step state action
  | .inject vehicle subscription packet => do
    let _ ← (peers.vehicle vehicle).subscribes[subscription]?
    return Function.update state vehicle ((state vehicle).receive subscription
      (((state vehicle).receivers subscription).inject packet))

variable {peers : Peers ι} {untouched : ι → Nat → Prop} {state : State ι}

theorem Receiver.Sound.inject {spared : Prop} {subscribed : Option ZmqSubscribe.Config}
    {receiver : Receiver ι} (sound : receiver.Sound spared subscribed) {packet : List Byte}
    (attacked : ¬ spared) (fits : packet.length ≤ ZMQ.sizeofMessage) :
    (receiver.inject packet).Sound spared subscribed :=
  sound.queued (fun spared => absurd spared attacked) fits receiver.passed

variable [DecidableEq ι]

theorem Resists.inject (resists : Resists peers untouched state) {vehicle : ι} {subscription : Nat}
    {packet : List Byte} (attacked : ¬ untouched vehicle subscription)
    (fits : packet.length ≤ ZMQ.sizeofMessage) :
    Resists peers untouched (Function.update state vehicle ((state vehicle).receive subscription
      (((state vehicle).receivers subscription).inject packet))) := by
  have sound := resists.node vehicle
  refine resists.change (sound.receive ((sound.receivers subscription).inject attacked fits))
    (List.prefix_refl _) ?_
  apply receive_forall fun other receiver => ∀ config, untouched vehicle other →
    (peers.vehicle vehicle).subscribes[other]? = some config →
    ∀ sender, config.vehicleId = (peers.vehicle sender).publish.vehicleId →
    Carries (state sender).published (receiver.passed sender)
      (carried config.vehicleId (state vehicle).events receiver)
  · exact fun _ spared => absurd spared attacked
  · intro other _ config spared found sender named
    exact resists.carries sender vehicle other config spared found named

/-- The injections of a run are into subscriptions not spared, and fit. -/
theorem Resists.run (identified : peers.Identified) {start final : State ι}
    {actions : List (Intrusion ι)} (resists : Resists peers untouched start)
    (injected : ∀ vehicle subscription packet, .inject vehicle subscription packet ∈ actions →
      ¬ untouched vehicle subscription ∧ packet.length ≤ ZMQ.sizeofMessage)
    (run : Run (Takes peers.intrude) start actions final) : Resists peers untouched final := by
  induction run with
  | start => exact resists
  | @step _ before action next _ taken ih =>
    have earlier : Resists peers untouched before := ih fun vehicle subscription packet member =>
      injected vehicle subscription packet (List.mem_append_left _ member)
    cases action with
    | swarm action => exact earlier.step identified taken
    | inject vehicle subscription packet =>
      obtain ⟨attacked, fits⟩ := injected vehicle subscription packet (by simp)
      obtain ⟨config, _, moved⟩ := Option.bind_eq_some_iff.mp taken
      cases moved
      exact earlier.inject attacked fits

/-- An injection touches no ring and no loop. -/
theorem Peers.run_intruded {nowMs : ι → Int} {message : ι → Nat → Storage ZMQ.sizeofMessage}
    {actions : List (Intrusion ι)}
    (run : Run (Takes peers.intrude) (initial nowMs message) actions state) (vehicle : ι) :
    ∃ own, Run (Takes SmallSwarm.step) (SmallSwarm.initial (nowMs vehicle)) own
      (state vehicle).swarm := by
  induction run with
  | start => exact ⟨[], .start⟩
  | @step _ before action next _ taken ih =>
    obtain ⟨own, run⟩ := ih
    cases action with
    | swarm action =>
      rcases Peers.step_swarm taken vehicle with same | ⟨action, stepped⟩
      · exact ⟨own, same ▸ run⟩
      · exact ⟨own ++ [action], .step run stepped⟩
    | inject attacked subscription packet =>
      obtain ⟨_, _, moved⟩ := Option.bind_eq_some_iff.mp taken
      cases moved
      refine ⟨own, ?_⟩
      by_cases same : vehicle = attacked
      · subst same
        rwa [Function.update_self]
      · rwa [Function.update_of_ne same]

/-- Packets of any content that come in at any subscriptions, none longer than a message:
no receiver leaves its message object and no loop pops an empty ring; every event bears an
id the vehicle subscribes to; and under the id of a peer whose subscription got none of
them, the events are still that peer's payloads, in its order. -/
theorem intrusion_contained (deployment : Deployment ι) (nowMs : ι → Int)
    (message : ι → Nat → Storage ZMQ.sizeofMessage) (actions : List (Intrusion ι)) (state : State ι)
    (run : Run (Takes deployment.peers.intrude) (initial nowMs message) actions state)
    (fits : ∀ vehicle subscription packet, .inject vehicle subscription packet ∈ actions →
      packet.length ≤ ZMQ.sizeofMessage) (receiver : ι) :
    (∀ subscription, ((state receiver).receivers subscription).fault = none) ∧
    (state receiver).swarm.point ≠ .undefined ∧
    (∀ event ∈ (state receiver).popped, ∃ config ∈ (deployment.vehicle receiver).subscribes,
      config.vehicleId = event.metadata.vehicleId) ∧
    ∀ sender, (∀ subscription config packet,
        (deployment.vehicle receiver).subscribes[subscription]? = some config →
        config.vehicleId = (deployment.vehicle sender).publish.vehicleId →
        .inject receiver subscription packet ∉ actions) →
      (((state receiver).popped.filter fun event =>
          event.metadata.vehicleId = (deployment.vehicle sender).publish.vehicleId).map
        SmallSwarm.EventText.payload).Sublist (state sender).published := by
  have resists : Resists deployment.peers
      (fun vehicle subscription => ∀ packet, .inject vehicle subscription packet ∉ actions) state := by
    refine (initial_resists deployment.peers _ nowMs message).run deployment.identified ?_ run
    intro vehicle subscription packet member
    exact ⟨fun spared => spared packet member, fits vehicle subscription packet member⟩
  obtain ⟨own, loops⟩ := Peers.run_intruded run receiver
  refine ⟨?_, SmallSwarm.run_defined loops, ?_, ?_⟩
  · exact fun subscription => ((resists.node receiver).receivers subscription).faultless
  · exact fun event member => (resists.node receiver).known event (List.mem_append_left _ member)
  · intro sender whole
    exact resists.delivered fun subscription config found named packet =>
      whole subscription config packet found named

/-- A frame forged under the sub-leader's id comes in at the subscription to it, before
the leader's own at its own. -/
def sampleIntrusion : List (Intrusion Bool) :=
  [.swarm (.publish true (.ofStorage (.zeros 32))),
    .inject false 1 (ZmqPublish.frame ZMQ.vehicleIdSubLeader (.ofStorage (.zeros 32))).bytes,
    .swarm (.iterate false 1), .swarm (.slot false 1), .swarm (.arrive true false 0 0),
    .swarm (.iterate false 0), .swarm (.slot false 0), .swarm (.loop false .test),
    .swarm (.loop false .popFront), .swarm (.loop false (.clock 0)), .swarm (.loop false .test),
    .swarm (.loop false .popFront)]

theorem intrusion_contained_sample :
    ∃ state, Run (Takes sampleDeployment.peers.intrude) (initial (fun _ => 0) fun _ _ => .zeros 35)
        sampleIntrusion state ∧
      (state false).popped.map (·.metadata.vehicleId) = [ZMQ.vehicleIdSubLeader, ZMQ.vehicleIdLeader] ∧
      (((state false).popped.filter fun event =>
          event.metadata.vehicleId = (sampleDeployment.vehicle true).publish.vehicleId).map
        SmallSwarm.EventText.payload).Sublist (state true).published := by
  have executed : (execute sampleDeployment.peers.intrude (initial (fun _ => 0) fun _ _ => .zeros 35)
      sampleIntrusion).map (fun state => (state false).popped.map (·.metadata.vehicleId)) =
        some [ZMQ.vehicleIdSubLeader, ZMQ.vehicleIdLeader] := by
    decide +kernel
  obtain ⟨state, done, popped⟩ := Option.map_eq_some_iff.mp executed
  have run := execute_run done
  have injected (vehicle : Bool) (subscription : Nat) (packet : List Byte)
      (member : .inject vehicle subscription packet ∈ sampleIntrusion) :
      subscription = 1 ∧ packet.length = ZMQ.sizeofMessage := by
    obtain ⟨rfl, rfl, rfl⟩ : vehicle = false ∧ subscription = 1 ∧
        packet = (ZmqPublish.frame ZMQ.vehicleIdSubLeader (.ofStorage (.zeros 32))).bytes := by
      simpa [sampleIntrusion] using member
    exact ⟨rfl, ZMQ.Message.bytes_length _⟩
  refine ⟨state, run, popped, (intrusion_contained sampleDeployment _ _ sampleIntrusion state run
    (fun vehicle subscription packet member => (injected vehicle subscription packet member).2.le)
    false).2.2.2 true ?_⟩
  intro subscription config packet found named member
  obtain ⟨rfl, _⟩ := injected false subscription packet member
  cases found
  exact absurd named (by decide)

end VehicleRunner.Swarm
