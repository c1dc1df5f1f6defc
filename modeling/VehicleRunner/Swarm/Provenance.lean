import VehicleRunner.Swarm.Protocol

/-! Where the events of the swarm come from: every one is a payload some vehicle published
under its own id, and what a vehicle's loop publishes are the readings of its telemetry. -/

namespace VehicleRunner.Swarm

open VehicleRunner.Foundation VehicleRunner.Bundle VehicleRunner.Plugin VehicleRunner.App

variable {ι : Type}

/-! ## Events are published payloads -/

/-- Some vehicle with this id has published the payload. -/
def Published (peers : Peers ι) (state : State ι) (vehicleId : Byte) (payload : ZMQ.Payload) : Prop :=
  ∃ publisher, (peers.vehicle publisher).publish.vehicleId = vehicleId ∧
    payload ∈ (state publisher).published

/-- Whatever a vehicle has received, in its queues, on the way to its slots, in its ring or
popped, is genuine. -/
structure Node.Authentic (Genuine : Byte → ZMQ.Payload → Prop) (node : Node ι) : Prop where
  queue : ∀ subscription, ∀ packet ∈ (node.receivers subscription).queue,
    ∃ sender payload, Genuine sender payload ∧ packet = (ZmqPublish.frame sender payload).bytes
  pending : ∀ subscription message, (node.receivers subscription).pending = some message →
    ∃ sender payload, Genuine sender payload ∧ message = ZmqPublish.frame sender payload
  events : ∀ event ∈ node.events,
    ∃ sender payload, Genuine sender payload ∧ event = SmallSwarm.payloadEvent sender payload

variable {Genuine : Byte → ZMQ.Payload → Prop} {node : Node ι}

theorem Node.Authentic.mono {More : Byte → ZMQ.Payload → Prop} (authentic : node.Authentic Genuine)
    (more : ∀ sender payload, Genuine sender payload → More sender payload) : node.Authentic More where
  queue subscription packet member := by
    obtain ⟨sender, payload, genuine, same⟩ := authentic.queue subscription packet member
    exact ⟨sender, payload, more sender payload genuine, same⟩
  pending subscription message present := by
    obtain ⟨sender, payload, genuine, same⟩ := authentic.pending subscription message present
    exact ⟨sender, payload, more sender payload genuine, same⟩
  events event member := by
    obtain ⟨sender, payload, genuine, same⟩ := authentic.events event member
    exact ⟨sender, payload, more sender payload genuine, same⟩

/-- One subscription changes, and the vehicle's events with it. -/
theorem Node.Authentic.receive (authentic : node.Authentic Genuine) {changed : Node ι} {subscription : Nat}
    {receiver : Receiver ι} (receivers : changed.receivers = node.receivers)
    (queue : ∀ packet ∈ receiver.queue,
      ∃ sender payload, Genuine sender payload ∧ packet = (ZmqPublish.frame sender payload).bytes)
    (pending : ∀ message, receiver.pending = some message →
      ∃ sender payload, Genuine sender payload ∧ message = ZmqPublish.frame sender payload)
    (events : ∀ event ∈ changed.events,
      ∃ sender payload, Genuine sender payload ∧ event = SmallSwarm.payloadEvent sender payload) :
    (changed.receive subscription receiver).Authentic Genuine where
  queue := receive_forall (fun _ receiver => ∀ packet ∈ receiver.queue,
      ∃ sender payload, Genuine sender payload ∧ packet = (ZmqPublish.frame sender payload).bytes)
    queue fun other _ => receivers ▸ authentic.queue other
  pending := receive_forall (fun _ receiver => ∀ message, receiver.pending = some message →
      ∃ sender payload, Genuine sender payload ∧ message = ZmqPublish.frame sender payload)
    pending fun other _ => receivers ▸ authentic.pending other
  events := events

theorem Node.Authentic.arrive [DecidableEq ι] (authentic : node.Authentic Genuine) (publisher : ι)
    (subscription index : Nat) {sender : Byte} {payload : ZMQ.Payload} (genuine : Genuine sender payload) :
    (node.receive subscription ((node.receivers subscription).arrive publisher index
      (ZmqPublish.frame sender payload).bytes)).Authentic Genuine := by
  refine authentic.receive rfl ?_ (authentic.pending subscription) authentic.events
  intro packet member
  rcases List.mem_append.mp member with old | new
  · exact authentic.queue subscription packet old
  · exact ⟨sender, payload, genuine, List.mem_singleton.mp new⟩

theorem Node.Authentic.iterate (authentic : node.Authentic Genuine) (subscription : Nat) (vehicleId : Byte) :
    (node.receive subscription ((node.receivers subscription).iterate vehicleId)).Authentic Genuine := by
  have before := authentic.queue subscription
  cases waiting : (node.receivers subscription).queue with
  | nil =>
    have turn : (node.receivers subscription).iterate vehicleId =
        { node.receivers subscription with queue := [], pending := none } := by
      simp only [Receiver.iterate, waiting, List.head?_nil, ZmqSubscribe.iterate_timeout, List.tail_nil]
    rw [turn]
    exact authentic.receive rfl (by simp) (by simp) authentic.events
  | cons packet rest =>
    obtain ⟨sender, payload, genuine, rfl⟩ := before packet (by simp [waiting])
    have turn : (node.receivers subscription).iterate vehicleId =
        { node.receivers subscription with
          queue := rest
          message := (ZmqPublish.frame sender payload).storage
          pending := if sender = vehicleId then some (ZmqPublish.frame sender payload) else none } := by
      simp only [Receiver.iterate, waiting, List.head?_cons, ZmqSubscribe.iterate_frame, List.tail_cons]
    rw [turn]
    refine authentic.receive rfl ?_ ?_ authentic.events
    · intro other member
      exact before other (by rw [waiting]; exact List.mem_cons_of_mem _ member)
    · intro message emitted
      obtain ⟨_, same⟩ := Option.ite_none_right_eq_some.mp emitted
      exact ⟨sender, payload, genuine, (Option.some.inj same).symm⟩

theorem Node.Authentic.slot (authentic : node.Authentic Genuine) {subscription : Nat} {message : ZMQ.Message}
    {swarm : SmallSwarm.State} (present : (node.receivers subscription).pending = some message)
    (stepped : SmallSwarm.step node.swarm (.slot message) = some swarm) :
    ({ node with swarm := swarm }.receive subscription
      { node.receivers subscription with pending := none }).Authentic Genuine := by
  obtain ⟨sender, payload, genuine, rfl⟩ := authentic.pending subscription message present
  cases Option.some.inj stepped
  refine authentic.receive rfl (authentic.queue subscription) (by simp) ?_
  intro event member
  have grown : event ∈ node.events ++ [SmallSwarm.payloadEvent sender payload] := by
    have items := slot_items node.swarm.eventBuffer (ZmqPublish.frame sender payload)
    rw [SmallSwarm.eventOf_frame, Option.toList_some] at items
    rw [Node.events, List.append_assoc]
    exact ((List.Sublist.refl _).append items).subset member
  rcases List.mem_append.mp grown with old | new
  · exact authentic.events event old
  · exact ⟨sender, payload, genuine, List.mem_singleton.mp new⟩

theorem Node.Authentic.loop (authentic : node.Authentic Genuine) (config : ZmqPublish.Config)
    {action : SmallSwarm.Action} (own : ofLoop action = true) {swarm : SmallSwarm.State}
    (stepped : SmallSwarm.step node.swarm action = some swarm) :
    (node.loop config action swarm).Authentic Genuine := by
  have still (next : Node ι) (receivers : next.receivers = node.receivers)
      (events : next.events = node.events) : next.Authentic Genuine := by
    exact
      { queue := by rw [receivers]; exact authentic.queue
        pending := by rw [receivers]; exact authentic.pending
        events := by rw [events]; exact authentic.events }
  cases SmallSwarm.step_cases stepped with
  | slot message => cases own
  | popped _ front =>
    refine still _ rfl ?_
    simp only [Node.loop, Node.events, front, Ring.popFront?_some front, Option.map_some,
      Option.toList_some, List.append_assoc, List.singleton_append]
  | undefined _ empty =>
    refine still _ rfl ?_
    simp only [Node.loop, Node.events, empty, Option.map_none, Option.toList_none, List.append_nil]
  | _ => exact still _ rfl rfl

/-- All that any vehicle has received was published. -/
def Authentic (peers : Peers ι) (state : State ι) : Prop :=
  ∀ vehicle, (state vehicle).Authentic (Published peers state)

theorem initial_authentic (peers : Peers ι) (nowMs : ι → Int)
    (message : ι → Nat → Storage ZMQ.sizeofMessage) : Authentic peers (initial nowMs message) := by
  intro vehicle
  refine ⟨?_, ?_, ?_⟩
  · simp [initial]
  · simp [initial]
  · simp [initial, Node.events, SmallSwarm.initial, Ring.empty]

/-- The variables of a loop as its calls leave them, and their values at each broadcast. -/
structure Readings where
  positionLlh : MavVehicle.PositionLlh := {}
  velocityNed : MavVehicle.VelocityNed := {}
  taken : List (MavVehicle.PositionLlh × MavVehicle.VelocityNed) := []

def Readings.note (readings : Readings) : SmallSwarm.Action → Readings
  | .getPosition telemetry =>
    { readings with positionLlh := (MavVehicle.getPosition telemetry readings.positionLlh).2 }
  | .getVelocity telemetry =>
    { readings with velocityNed := (MavVehicle.getVelocity telemetry readings.velocityNed).2 }
  | .publish =>
    { readings with taken := readings.taken ++ [(readings.positionLlh, readings.velocityNed)] }
  | _ => readings

/-- The node is where its loop's calls have brought it. -/
structure Node.Reads (readings : Readings) (node : Node ι) : Prop where
  position : node.swarm.positionLlh = readings.positionLlh
  velocity : node.swarm.velocityNed = readings.velocityNed
  published : node.published = readings.taken.map fun taken => SmallSwarm.payloadOf taken.1 taken.2

theorem Node.Reads.loop {readings : Readings} (reads : node.Reads readings) (config : ZmqPublish.Config)
    {action : SmallSwarm.Action} (own : ofLoop action = true) {swarm : SmallSwarm.State}
    (stepped : SmallSwarm.step node.swarm action = some swarm) :
    (node.loop config action swarm).Reads (readings.note action) := by
  obtain ⟨position, velocity, published⟩ := reads
  cases SmallSwarm.step_cases stepped with
  | slot message => cases own
  | getPosition _ => exact ⟨by simp [Node.loop, Readings.note, position], velocity, published⟩
  | getVelocity _ => exact ⟨position, by simp [Node.loop, Readings.note, velocity], published⟩
  | publish _ =>
    refine ⟨position, velocity, ?_⟩
    simp [Node.loop, Node.publish, Readings.note, SmallSwarm.broadcast, published, position, velocity]
  | _ => exact ⟨position, velocity, published⟩

/-! ## Every run is authentic -/

variable [DecidableEq ι] {peers : Peers ι} {state next : State ι}

/-- One vehicle changes, and publishes no less than before. -/
theorem Authentic.change (authentic : Authentic peers state) {vehicle : ι} {changed : Node ι}
    (grown : (state vehicle).published <+: changed.published)
    (kept : changed.Authentic (Published peers state)) :
    Authentic peers (Function.update state vehicle changed) := by
  have more (sender : Byte) (payload : ZMQ.Payload) (genuine : Published peers state sender payload) :
      Published peers (Function.update state vehicle changed) sender payload := by
    obtain ⟨publisher, named, member⟩ := genuine
    refine ⟨publisher, named, ?_⟩
    by_cases same : publisher = vehicle
    · subst same
      rw [Function.update_self]
      exact grown.subset member
    · rwa [Function.update_of_ne same]
  intro other
  by_cases same : other = vehicle
  · subst same
    rw [Function.update_self]
    exact kept.mono more
  · rw [Function.update_of_ne same]
    exact (authentic other).mono more

theorem Authentic.step (sound : Sound peers state) (authentic : Authentic peers state) {action : Action ι}
    (taken : peers.step state action = some next) : Authentic peers next := by
  cases Peers.step_cases taken with
  | publish vehicle payload =>
    have same := authentic vehicle
    exact authentic.change (List.prefix_append _ _) ⟨same.queue, same.pending, same.events⟩
  | @arrive subscriber _ _ publisher index packet _ sent _ _ =>
    rw [(sound.node publisher).sent, List.getElem?_map, Option.map_eq_some_iff] at sent
    obtain ⟨payload, published, rfl⟩ := sent
    exact authentic.change (List.prefix_refl _)
      ((authentic subscriber).arrive publisher _ index ⟨publisher, rfl, List.mem_of_getElem? published⟩)
  | @iterate vehicle _ _ _ _ _ =>
    exact authentic.change (List.prefix_refl _) ((authentic vehicle).iterate _ _)
  | @slot vehicle _ _ _ present stepped =>
    exact authentic.change (List.prefix_refl _) ((authentic vehicle).slot present stepped)
  | @loop action vehicle _ own stepped =>
    refine authentic.change ?_ ((authentic vehicle).loop _ own stepped)
    cases action <;> first | exact List.prefix_refl _ | exact List.prefix_append _ _

theorem Authentic.run (identified : peers.Identified) {start final : State ι} {actions : List (Action ι)}
    (sound : Sound peers start) (authentic : Authentic peers start)
    (run : Run (Takes peers.step) start actions final) : Authentic peers final := by
  have both : Sound peers final ∧ Authentic peers final := by
    induction run with
    | start => exact ⟨sound, authentic⟩
    | step _ taken ih => exact ⟨ih.1.step identified taken, Authentic.step ih.1 ih.2 taken⟩
  exact both.2

/-! ## Published payloads are readings -/

/-- What a vehicle's loop does in a run. -/
def callsOf (vehicle : ι) (actions : List (Action ι)) : List SmallSwarm.Action :=
  actions.filterMap fun action =>
    match action with
    | .loop actor call => if actor = vehicle then some call else none
    | _ => none

def readings (vehicle : ι) (actions : List (Action ι)) : Readings :=
  (callsOf vehicle actions).foldl Readings.note {}

/-- Only the loop calls `Publish`. -/
def OwnBroadcast (_ : State ι) : Action ι → Prop
  | .publish _ _ => False
  | _ => True

instance (state : State ι) (action : Action ι) : Decidable (OwnBroadcast state action) := by
  cases action <;> unfold OwnBroadcast <;> infer_instance

theorem readings_append (vehicle : ι) (actions : List (Action ι)) (action : Action ι) :
    readings vehicle (actions ++ [action]) =
      (callsOf vehicle [action]).foldl Readings.note (readings vehicle actions) := by
  simp only [readings, callsOf, List.filterMap_append, List.foldl_append]

/-- In every run a vehicle has published what its loop has read, in that order. -/
theorem published_readings {nowMs : ι → Int} {message : ι → Nat → Storage ZMQ.sizeofMessage}
    {actions : List (Action ι)}
    (run : Run (Guarded OwnBroadcast (Takes peers.step)) (initial nowMs message) actions state)
    (vehicle : ι) : (state vehicle).Reads (readings vehicle actions) := by
  induction run with
  | start => exact ⟨rfl, rfl, rfl⟩
  | @step actions before action next _ taken ih =>
    obtain ⟨own, stepped⟩ := taken
    have still {changed : ι} {node : Node ι} (calls : callsOf vehicle [action] = [])
        (swarm : node.swarm.positionLlh = (before changed).swarm.positionLlh ∧
          node.swarm.velocityNed = (before changed).swarm.velocityNed)
        (published : node.published = (before changed).published) :
        (Function.update before changed node vehicle).Reads (readings vehicle (actions ++ [action])) := by
      rw [readings_append, calls, List.foldl_nil]
      by_cases same : vehicle = changed
      · subst same
        rw [Function.update_self]
        exact ⟨swarm.1.trans ih.position, swarm.2.trans ih.velocity, published.trans ih.published⟩
      · rwa [Function.update_of_ne same]
    cases Peers.step_cases stepped with
    | publish _ _ => exact own.elim
    | arrive _ _ _ _ => exact still rfl ⟨rfl, rfl⟩ rfl
    | iterate _ _ _ => exact still rfl ⟨rfl, rfl⟩ rfl
    | slot _ pushed =>
      cases SmallSwarm.step_cases pushed
      exact still rfl ⟨rfl, rfl⟩ rfl
    | @loop call changed swarm mine called =>
      rw [readings_append]
      by_cases same : vehicle = changed
      · subst same
        simp only [callsOf, List.filterMap_cons, ↓reduceIte, List.filterMap_nil, List.foldl_cons,
          List.foldl_nil, Function.update_self]
        exact ih.loop _ mine called
      · simp only [callsOf, List.filterMap_cons, Ne.symm same, ↓reduceIte, List.filterMap_nil,
          List.foldl_nil, Function.update_of_ne same]
        exact ih

/-- The position is the one the loop starts with, or one the telemetry reported to a call. -/
def PositionFrom (calls : List SmallSwarm.Action) (llh : MavVehicle.PositionLlh) : Prop :=
  llh = {} ∨ ∃ reading, .getPosition (some reading) ∈ calls ∧
    llh = (MavVehicle.getPosition (some reading) {}).2

def VelocityFrom (calls : List SmallSwarm.Action) (ned : MavVehicle.VelocityNed) : Prop :=
  ned = {} ∨ ∃ reading, .getVelocity (some reading) ∈ calls ∧
    ned = (MavVehicle.getVelocity (some reading) {}).2

/-- All values of the readings come from the calls. -/
structure Readings.From (calls : List SmallSwarm.Action) (readings : Readings) : Prop where
  position : PositionFrom calls readings.positionLlh
  velocity : VelocityFrom calls readings.velocityNed
  taken : ∀ taken ∈ readings.taken, PositionFrom calls taken.1 ∧ VelocityFrom calls taken.2

theorem PositionFrom.more {calls : List SmallSwarm.Action} {llh : MavVehicle.PositionLlh}
    (reported : PositionFrom calls llh) (call : SmallSwarm.Action) : PositionFrom (calls ++ [call]) llh := by
  rcases reported with first | ⟨reading, member, same⟩
  · exact .inl first
  · exact .inr ⟨reading, List.mem_append_left _ member, same⟩

theorem VelocityFrom.more {calls : List SmallSwarm.Action} {ned : MavVehicle.VelocityNed}
    (reported : VelocityFrom calls ned) (call : SmallSwarm.Action) : VelocityFrom (calls ++ [call]) ned := by
  rcases reported with first | ⟨reading, member, same⟩
  · exact .inl first
  · exact .inr ⟨reading, List.mem_append_left _ member, same⟩

theorem readings_from (calls : List SmallSwarm.Action) : (calls.foldl Readings.note {}).From calls := by
  induction calls using List.reverseRecOn with
  | nil => exact ⟨.inl rfl, .inl rfl, by simp⟩
  | append_singleton calls call ih =>
    rw [List.foldl_append, List.foldl_cons, List.foldl_nil]
    have position := ih.position.more call
    have velocity := ih.velocity.more call
    have taken (pair : MavVehicle.PositionLlh × MavVehicle.VelocityNed)
        (member : pair ∈ (calls.foldl Readings.note {}).taken) :
        PositionFrom (calls ++ [call]) pair.1 ∧ VelocityFrom (calls ++ [call]) pair.2 :=
      ⟨(ih.taken pair member).1.more call, (ih.taken pair member).2.more call⟩
    have last : call ∈ calls ++ [call] := List.mem_append_right _ (List.mem_singleton_self _)
    cases call with
    | getPosition telemetry =>
      cases telemetry with
      | none => exact ⟨position, velocity, taken⟩
      | some reading => exact ⟨.inr ⟨reading, last, rfl⟩, velocity, taken⟩
    | getVelocity telemetry =>
      cases telemetry with
      | none => exact ⟨position, velocity, taken⟩
      | some reading => exact ⟨position, .inr ⟨reading, last, rfl⟩, taken⟩
    | publish =>
      refine ⟨position, velocity, ?_⟩
      intro pair member
      rcases List.mem_append.mp member with old | new
      · exact taken pair old
      · rw [List.mem_singleton.mp new]
        exact ⟨position, velocity⟩
    | _ => exact ⟨position, velocity, taken⟩

/-- Whatever a vehicle pops is, id and payload, a broadcast of a vehicle of the swarm, made
of readings its own telemetry reported to it; and the broadcasts popped under an id are
readings of that vehicle in the order it took them. -/
theorem events_are_readings (deployment : Deployment ι) (nowMs : ι → Int)
    (message : ι → Nat → Storage ZMQ.sizeofMessage) (actions : List (Action ι)) (state : State ι)
    (run : Run (Guarded OwnBroadcast (Takes deployment.peers.step)) (initial nowMs message) actions state)
    (receiver : ι) :
    (∀ event ∈ (state receiver).popped, ∃ sender llh ned,
      event = SmallSwarm.payloadEvent (deployment.vehicle sender).publish.vehicleId
        (SmallSwarm.payloadOf llh ned) ∧
      (llh, ned) ∈ (readings sender actions).taken ∧
      PositionFrom (callsOf sender actions) llh ∧ VelocityFrom (callsOf sender actions) ned) ∧
    ∀ sender, (eventsOf (deployment.vehicle sender).publish.vehicleId (state receiver).popped).Sublist
      ((readings sender actions).taken.map fun taken => SmallSwarm.payloadOf taken.1 taken.2) := by
  have sound := initial_sound deployment.peers nowMs message
  have authentic := (initial_authentic deployment.peers nowMs message).run deployment.identified sound
    run.unguard
  constructor
  · intro event member
    obtain ⟨vehicleId, payload, ⟨sender, named, published⟩, rfl⟩ :=
      (authentic receiver).events event (List.mem_append_left _ member)
    rw [(published_readings run sender).published, List.mem_map] at published
    obtain ⟨⟨llh, ned⟩, taken, rfl⟩ := published
    have reported := (readings_from (callsOf sender actions)).taken _ taken
    exact ⟨sender, llh, ned, by rw [← named]; rfl, taken, reported.1, reported.2⟩
  · intro sender
    have delivered := (sound.run deployment.identified run.unguard).delivered sender receiver
    rwa [(published_readings run sender).published] at delivered

/-- Thirty-two metres above home. -/
def sampleReading : MavVehicle.Telemetry :=
  { MavVehicle.Telemetry.zeros with relativeAltitudeM := ⟨[0x00, 0x00, 0x00, 0x42], rfl⟩ }

/-- The leader broadcasts its telemetry, and the member pops it. -/
def sampleBroadcast : List (Action Bool) :=
  [.loop true .test, .loop true (.clock 200), .loop true (.getPosition (some sampleReading)),
    .loop true (.getVelocity (some sampleReading)), .loop true .publish, .arrive true false 0 0,
    .iterate false 0, .slot false 0, .loop false .test, .loop false .popFront]

theorem events_are_readings_sample :
    ∃ state, Run (Guarded OwnBroadcast (Takes sampleDeployment.peers.step))
        (initial (fun _ => 0) fun _ _ => .zeros 35) sampleBroadcast state ∧
      ∃ event ∈ (state false).popped, ∃ sender llh ned,
        event = SmallSwarm.payloadEvent (sampleDeployment.vehicle sender).publish.vehicleId
          (SmallSwarm.payloadOf llh ned) ∧
        (llh, ned) ∈ (readings sender sampleBroadcast).taken := by
  have executed : (execute (guardStep OwnBroadcast sampleDeployment.peers.step)
      (initial (fun _ => 0) fun _ _ => .zeros 35) sampleBroadcast).map
        (fun state => (state false).popped.map (·.payload.position.altitudeM)) =
      some [sampleReading.relativeAltitudeM] := by
    decide +kernel
  obtain ⟨state, done, popped⟩ := Option.map_eq_some_iff.mp executed
  have run := execute_guarded done
  have member : sampleReading.relativeAltitudeM ∈ (state false).popped.map (·.payload.position.altitudeM) := by
    rw [popped]
    exact List.mem_singleton_self _
  obtain ⟨event, present, _⟩ := List.mem_map.mp member
  obtain ⟨sender, llh, ned, same, taken, _⟩ :=
    (events_are_readings sampleDeployment _ _ sampleBroadcast state run false).1 event present
  exact ⟨state, run, event, present, sender, llh, ned, same, taken⟩

end VehicleRunner.Swarm
