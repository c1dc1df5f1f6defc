import VehicleRunner.Foundation.Ranking
import VehicleRunner.Swarm.Protocol

/-! No state of the swarm is a dead end: whatever has been lost or is still waiting, a
payload published now can come through to any other vehicle's loop, by that vehicle's own
threads once its frame has arrived. -/

namespace VehicleRunner.Swarm

open VehicleRunner.Foundation VehicleRunner.Bundle VehicleRunner.Plugin VehicleRunner.App

variable {ι : Type}

/-- The loop's clock shows this time, and its getters find this telemetry. -/
def shows (nowMs : Int) (telemetry : Option MavVehicle.Telemetry) : SmallSwarm.Action → Prop
  | .clock reading => reading = nowMs
  | .getPosition found => found = telemetry
  | .getVelocity found => found = telemetry
  | _ => True

/-- A step of the vehicle's own threads: of a subscription's receive loop, of the slot it
runs, or of the swarm's loop. -/
def Action.Inside (vehicle : ι) (nowMs : Int) (telemetry : Option MavVehicle.Telemetry) : Action ι → Prop
  | .publish _ _ => False
  | .arrive _ _ _ _ => False
  | .iterate other _ => other = vehicle
  | .slot other _ => other = vehicle
  | .loop other action => other = vehicle ∧ shows nowMs telemetry action

/-- A vehicle subscribes to every other one, at the URL that one publishes at. -/
theorem Deployment.subscribed (deployment : Deployment ι) {sender receiver : ι}
    (different : sender ≠ receiver) : ∃ (subscription : Nat) (config : ZmqSubscribe.Config),
      (deployment.vehicle receiver).subscribes[subscription]? = some config ∧
        config.vehicleId = (deployment.vehicle sender).publish.vehicleId ∧
        config.remoteUrl = deployment.url sender := by
  obtain ⟨vehicles, senderRole, url, sends⟩ := deployment.seated sender
  obtain ⟨others, receiverRole, _, receives⟩ := deployment.seated receiver
  obtain rfl : vehicles = others :=
    (deployment.agree sender receiver).fleet sends.loaded receives.loaded
  have known : ownUrl (deployment.json sender) = .ok url :=
    bind_ok.mpr ⟨senderRole, sends.selected, sends.url⟩
  obtain rfl : url = deployment.url sender :=
    Except.ok.inj (known.symm.trans (deployment.own sender))
  have seats : senderRole.seat ≠ receiverRole.seat := by
    apply Role.seat_ne sends.numbered receives.numbered
    rintro rfl
    exact deployment.roles sender receiver different (sends.selected.trans receives.selected.symm)
  have listed : _ ∈ (deployment.vehicle receiver).subscribes :=
    receives.others ▸ List.mem_eraseIdx_iff_getElem?.mpr ⟨senderRole.seat, seats, sends.own⟩
  obtain ⟨subscription, found⟩ := List.getElem?_of_mem listed
  exact ⟨subscription, _, found, rfl, rfl⟩

/-! ## What a subscription still has to work off -/

/-- A message is the last to come of what its subscription holds. -/
def Receiver.Bears (message : ZMQ.Message) (receiver : Receiver ι) : Prop :=
  receiver.queue.getLast? = some message.bytes ∨
    receiver.queue = [] ∧ receiver.pending = some message

def Receiver.waiting (receiver : Receiver ι) : Nat :=
  2 * receiver.queue.length + receiver.pending.toList.length

/-- Before the message has come out, it is the last of a queue with something in front. -/
theorem Receiver.Bears.front {message : ZMQ.Message} {receiver : Receiver ι}
    (bears : receiver.Bears message) (unready : receiver.pending ≠ some message) :
    ∃ packet rest, receiver.queue = packet :: rest ∧
      (rest = [] ∧ packet = message.bytes ∨ rest.getLast? = some message.bytes) := by
  have last := bears.resolve_right fun ready => unready ready.2
  cases waiting : receiver.queue with
  | nil => simp [waiting] at last
  | cons packet rest =>
    rw [waiting] at last
    cases rest with
    | nil => exact ⟨packet, [], rfl, .inl ⟨rfl, by simpa using last⟩⟩
    | cons another rest => exact ⟨packet, another :: rest, rfl, .inr (by simpa using last)⟩

/-- A turn of the receive loop on the front of the queue. -/
theorem Receiver.iterate_front {vehicleId sender : Byte} {payload : ZMQ.Payload} {receiver : Receiver ι}
    {rest : List (List Byte)}
    (waiting : receiver.queue = (ZmqPublish.frame sender payload).bytes :: rest) :
    receiver.iterate vehicleId =
      { receiver with
        queue := rest
        message := (ZmqPublish.frame sender payload).storage
        pending :=
          if sender = vehicleId then some (ZmqPublish.frame sender payload) else none } := by
  simp only [Receiver.iterate, waiting, List.head?_cons, ZmqSubscribe.iterate_frame, List.tail_cons]

/-- What a turn does for a message of its own vehicle that has not come out yet. -/
theorem Receiver.Bears.iterate {vehicleId : Byte} {payload : ZMQ.Payload} {receiver : Receiver ι}
    (framed : ∀ packet ∈ receiver.queue,
      ∃ sender payload, packet = (ZmqPublish.frame sender payload).bytes)
    (idle : receiver.pending = none) (bears : receiver.Bears (ZmqPublish.frame vehicleId payload)) :
    (receiver.iterate vehicleId).Bears (ZmqPublish.frame vehicleId payload) ∧
      (receiver.iterate vehicleId).waiting < receiver.waiting := by
  obtain ⟨packet, rest, waiting, last⟩ := bears.front (by simp [idle])
  rcases last with ⟨rfl, rfl⟩ | last
  · rw [iterate_front waiting]
    exact ⟨.inr ⟨rfl, if_pos rfl⟩, by simp [Receiver.waiting, waiting, idle]⟩
  · obtain ⟨sender, other, rfl⟩ := framed packet (by simp [waiting])
    rw [iterate_front waiting]
    refine ⟨.inl last, ?_⟩
    have emits : (if sender = vehicleId then some (ZmqPublish.frame sender other) else none).toList.length ≤ 1 :=
      Option.length_toList_le
    simp only [Receiver.waiting, waiting, idle, List.length_cons, Option.toList_none, List.length_nil]
    omega

/-- What the slot does for a message behind the one it takes. -/
theorem Receiver.Bears.slot {message taken : ZMQ.Message} {receiver : Receiver ι}
    (present : receiver.pending = some taken) (unready : receiver.pending ≠ some message)
    (bears : receiver.Bears message) :
    Receiver.Bears message { receiver with pending := none } ∧
      Receiver.waiting { receiver with pending := none } < receiver.waiting := by
  refine ⟨.inl (bears.resolve_right fun ready => unready ready.2), ?_⟩
  simp [Receiver.waiting, present]

/-! ## What the loop still has to work off -/

/-- How many steps of the loop come before its next pop, while there is something to pop. -/
def untilPop : SmallSwarm.Point → Nat
  | .popFront => 0
  | .test => 1
  | .publish => 2
  | .getVelocity => 3
  | .getPosition => 4
  | .clock => 5
  | .undefined => 0

def Node.held (node : Node ι) : Nat :=
  6 * node.swarm.eventBuffer.items.length + untilPop node.swarm.point

/-- The event is the last in the ring, or the last that came out of it. -/
def Node.Yields (event : SmallSwarm.EventText) (node : Node ι) : Prop :=
  node.swarm.eventBuffer.items.getLast? = some event ∨ node.popped.getLast? = some event

theorem Node.Yields.filled {event : SmallSwarm.EventText} {node : Node ι} (yields : node.Yields event)
    (unready : node.popped.getLast? ≠ some event) :
    node.swarm.eventBuffer.items.getLast? = some event ∧ node.swarm.eventBuffer.items ≠ [] := by
  have last := yields.resolve_right unready
  refine ⟨last, ?_⟩
  intro empty
  simp [empty] at last

/-- The loop has a step of its own towards the event, wherever it stands and whatever its
clock shows. -/
theorem Node.Yields.loop {event : SmallSwarm.EventText} {node : Node ι} (config : ZmqPublish.Config)
    (nowMs : Int) (telemetry : Option MavVehicle.Telemetry) (yields : node.Yields event)
    (unready : node.popped.getLast? ≠ some event) (defined : node.swarm.point ≠ .undefined) :
    ∃ action swarm, ofLoop action = true ∧ shows nowMs telemetry action ∧
      SmallSwarm.step node.swarm action = some swarm ∧
      (node.loop config action swarm).Yields event ∧ (node.loop config action swarm).held < node.held := by
  obtain ⟨last, filled⟩ := yields.filled unready
  cases here : node.swarm.point with
  | undefined => exact absurd here defined
  | test =>
    have busy : node.swarm.eventBuffer.isEmpty = false := by
      rw [Bool.eq_false_iff, ne_eq, Ring.isEmpty_iff]
      exact filled
    refine ⟨.test, _, rfl, trivial, if_pos here, .inl last, ?_⟩
    simp [Node.held, Node.loop, busy, here, untilPop]
  | popFront =>
    cases front : node.swarm.eventBuffer.popFront? with
    | none => exact absurd (Ring.popFront?_none front) filled
    | some taken =>
      obtain ⟨first, rest⟩ := taken
      have items := Ring.popFront?_some front
      refine ⟨.popFront, _, rfl, trivial, if_pos here, ?_, ?_⟩
      · -- The ring keeps the event, unless it was the only one.
        rw [items] at last
        simp only [Node.Yields, Node.loop, SmallSwarm.popEvent, front, Option.map_some, Option.toList_some]
        cases left : rest.items with
        | nil => exact .inr (by simpa [left] using last)
        | cons another later => exact .inl (by simpa [left] using last)
      · simp only [Node.held, Node.loop, SmallSwarm.popEvent, front, items, here, untilPop, List.length_cons]
        omega
  | clock =>
    refine ⟨.clock nowMs, _, rfl, rfl, if_pos here, .inl last, ?_⟩
    simp only [Node.held, Node.loop, SmallSwarm.readClock, here]
    split <;> simp [untilPop]
  | getPosition =>
    refine ⟨.getPosition telemetry, _, rfl, rfl, if_pos here, .inl last, ?_⟩
    simp [Node.held, Node.loop, here, untilPop]
  | getVelocity =>
    refine ⟨.getVelocity telemetry, _, rfl, rfl, if_pos here, .inl last, ?_⟩
    simp [Node.held, Node.loop, here, untilPop]
  | publish =>
    refine ⟨.publish, _, rfl, trivial, if_pos here, .inl last, ?_⟩
    simp [Node.held, Node.loop, Node.publish, here, untilPop]

/-! ## Frames gone by were sent -/

/-- No subscription is ahead of what a publisher has sent. -/
def Counted (state : State ι) : Prop :=
  ∀ publisher subscriber subscription,
    ((state subscriber).receivers subscription).passed publisher ≤ (state publisher).sent.length

theorem initial_counted (nowMs : ι → Int) (message : ι → Nat → Storage ZMQ.sizeofMessage) :
    Counted (initial nowMs message) :=
  fun _ _ _ => Nat.le_refl 0

theorem Receiver.iterate_passed (vehicleId : Byte) (receiver : Receiver ι) :
    (receiver.iterate vehicleId).passed = receiver.passed := by
  unfold Receiver.iterate
  split
  · rfl
  · rfl

theorem Node.loop_sent (config : ZmqPublish.Config) (action : SmallSwarm.Action)
    (swarm : SmallSwarm.State) (node : Node ι) :
    node.sent <+: (node.loop config action swarm).sent := by
  cases action with
  | publish => exact List.prefix_append _ _
  | _ => exact List.prefix_refl _

theorem Node.loop_receivers (config : ZmqPublish.Config) (action : SmallSwarm.Action)
    (swarm : SmallSwarm.State) (node : Node ι) :
    (node.loop config action swarm).receivers = node.receivers := by
  cases action <;> rfl

variable [DecidableEq ι] {peers : Peers ι} {state next : State ι}

theorem Counted.change (counted : Counted state) {vehicle : ι} {changed : Node ι}
    (sent : (state vehicle).sent <+: changed.sent)
    (passed : ∀ subscription publisher,
      (changed.receivers subscription).passed publisher ≤ (state publisher).sent.length) :
    Counted (Function.update state vehicle changed) := by
  intro publisher subscriber subscription
  have grown : (state publisher).sent.length ≤
      (Function.update state vehicle changed publisher).sent.length := by
    by_cases same : publisher = vehicle
    · subst same
      simpa only [Function.update_self] using sent.length_le
    · rw [Function.update_of_ne same]
  refine Nat.le_trans ?_ grown
  by_cases same : subscriber = vehicle
  · subst same
    simpa only [Function.update_self] using passed subscription publisher
  · simpa only [Function.update_of_ne same] using counted publisher subscriber subscription

theorem Counted.receive (counted : Counted state) {vehicle : ι} {node : Node ι} {subscription : Nat}
    {receiver : Receiver ι} (sent : node.sent = (state vehicle).sent)
    (receivers : node.receivers = (state vehicle).receivers)
    (passed : ∀ publisher, receiver.passed publisher ≤ (state publisher).sent.length) :
    Counted (Function.update state vehicle (node.receive subscription receiver)) := by
  refine counted.change ?_ ?_
  · exact sent ▸ List.prefix_refl _
  · apply receive_forall (fun _ receiver => ∀ publisher,
      receiver.passed publisher ≤ (state publisher).sent.length) passed
    intro other _ publisher
    rw [receivers]
    exact counted publisher vehicle other

theorem Counted.step (counted : Counted state) {action : Action ι}
    (taken : peers.step state action = some next) : Counted next := by
  cases Peers.step_cases taken with
  | @publish vehicle payload =>
    exact counted.change (List.prefix_append _ _) fun subscription publisher =>
      counted publisher vehicle subscription
  | @arrive subscriber subscription _ publisher index _ _ sent _ _ =>
    refine counted.receive rfl rfl ?_
    intro other
    by_cases same : other = publisher
    · subst same
      simpa only [Receiver.arrive, Function.update_self, Nat.succ_le_iff] using
        (List.getElem?_eq_some_iff.mp sent).1
    · simpa only [Receiver.arrive, Function.update_of_ne same] using
        counted other subscriber subscription
  | @iterate vehicle subscription _ _ _ _ =>
    refine counted.receive rfl rfl ?_
    rw [Receiver.iterate_passed]
    exact fun publisher => counted publisher vehicle subscription
  | @slot vehicle subscription _ _ _ _ =>
    exact counted.receive rfl rfl fun publisher => counted publisher vehicle subscription
  | @loop _ vehicle _ _ _ =>
    refine counted.change (Node.loop_sent _ _ _ _) ?_
    intro subscription publisher
    rw [Node.loop_receivers]
    exact counted publisher vehicle subscription

/-! ## Steps that can be taken -/

theorem takes_arrive {publisher subscriber : ι} {subscription index : Nat} {config : ZmqSubscribe.Config}
    {packet : List Byte} (found : (peers.vehicle subscriber).subscribes[subscription]? = some config)
    (sent : (state publisher).sent[index]? = some packet) (connected : config.remoteUrl = peers.url publisher)
    (later : ((state subscriber).receivers subscription).passed publisher ≤ index) :
    Takes peers.step state (.arrive publisher subscriber subscription index)
      (Function.update state subscriber ((state subscriber).receive subscription
        (((state subscriber).receivers subscription).arrive publisher index packet))) := by
  simp only [Takes, Peers.step, found, sent, connected, later, and_self, ↓reduceIte,
    Option.bind_eq_bind, Option.bind_some, pure]

theorem takes_iterate {vehicle : ι} {subscription : Nat} {config : ZmqSubscribe.Config}
    (found : (peers.vehicle vehicle).subscribes[subscription]? = some config)
    (idle : ((state vehicle).receivers subscription).pending = none)
    (running : ((state vehicle).receivers subscription).fault = none) :
    Takes peers.step state (.iterate vehicle subscription)
      (Function.update state vehicle ((state vehicle).receive subscription
        (((state vehicle).receivers subscription).iterate config.vehicleId))) := by
  simp only [Takes, Peers.step, found, idle, running, and_self, ↓reduceIte, Option.bind_eq_bind,
    Option.bind_some, pure]

theorem takes_slot {vehicle : ι} {subscription : Nat} {message : ZMQ.Message}
    (present : ((state vehicle).receivers subscription).pending = some message) :
    Takes peers.step state (.slot vehicle subscription)
      (Function.update state vehicle ({ state vehicle with
          swarm := { (state vehicle).swarm with
            eventBuffer := SmallSwarm.slotZmqMessageArrived (state vehicle).swarm.eventBuffer message } }.receive
        subscription { (state vehicle).receivers subscription with pending := none })) := by
  simp only [Takes, Peers.step, present, SmallSwarm.step, Option.bind_eq_bind, Option.bind_some, pure]

theorem takes_loop {vehicle : ι} {action : SmallSwarm.Action} {swarm : SmallSwarm.State}
    (own : ofLoop action = true) (stepped : SmallSwarm.step (state vehicle).swarm action = some swarm) :
    Takes peers.step state (.loop vehicle action)
      (Function.update state vehicle
        ((state vehicle).loop (peers.vehicle vehicle).publish action swarm)) := by
  simp only [Takes, Peers.step, own, stepped, ↓reduceIte, Option.bind_eq_bind, Option.bind_some, pure]

variable {nowMs : ι → Int} {message : ι → Nat → Storage ZMQ.sizeofMessage}

/-- The states of one run of the swarm. -/
def Reached (peers : Peers ι) (nowMs : ι → Int) (message : ι → Nat → Storage ZMQ.sizeofMessage)
    (state : State ι) : Prop :=
  ∃ actions, Run (Takes peers.step) (initial nowMs message) actions state

theorem Reached.onward (reached : Reached peers nowMs message state) {action : Action ι}
    (taken : Takes peers.step state action next) : Reached peers nowMs message next := by
  obtain ⟨actions, run⟩ := reached
  exact ⟨_, run.step taken⟩

theorem Reached.sound (identified : peers.Identified) (reached : Reached peers nowMs message state) :
    Sound peers state := by
  obtain ⟨actions, run⟩ := reached
  exact (initial_sound peers nowMs message).run identified run

theorem Reached.defined (reached : Reached peers nowMs message state) (vehicle : ι) :
    (state vehicle).swarm.point ≠ .undefined := by
  obtain ⟨actions, run⟩ := reached
  obtain ⟨own, loops⟩ := Peers.run_swarm run vehicle
  exact SmallSwarm.run_defined loops

theorem Reached.counted (reached : Reached peers nowMs message state) : Counted state := by
  obtain ⟨actions, run⟩ := reached
  exact run.invariant (initial_counted nowMs message) fun _ _ _ kept taken => kept.step taken

variable (time : Int) (telemetry : Option MavVehicle.Telemetry)

/-- The receive loop and its slot work off what is waiting, down to the message. -/
theorem Reached.emits (identified : peers.Identified) (reached : Reached peers nowMs message state)
    {vehicle : ι} {subscription : Nat} {config : ZmqSubscribe.Config}
    (found : (peers.vehicle vehicle).subscribes[subscription]? = some config) (payload : ZMQ.Payload)
    (bears : ((state vehicle).receivers subscription).Bears (ZmqPublish.frame config.vehicleId payload)) :
    ∃ actions next, Run (Takes peers.step) state actions next ∧
      (∀ action ∈ actions, action.Inside vehicle time telemetry) ∧ Reached peers nowMs message next ∧
      ((next vehicle).receivers subscription).pending =
        some (ZmqPublish.frame config.vehicleId payload) := by
  have onward (state : State ι)
      (held : Reached peers nowMs message state ∧ ((state vehicle).receivers subscription).Bears
        (ZmqPublish.frame config.vehicleId payload))
      (unready : ¬ ((state vehicle).receivers subscription).pending =
          some (ZmqPublish.frame config.vehicleId payload)) :
      ∃ actions next, Run (Takes peers.step) state actions next ∧
        (∀ action ∈ actions, action.Inside vehicle time telemetry) ∧
        (Reached peers nowMs message next ∧ ((next vehicle).receivers subscription).Bears
          (ZmqPublish.frame config.vehicleId payload)) ∧
        ((next vehicle).receivers subscription).waiting <
          ((state vehicle).receivers subscription).waiting := by
    obtain ⟨reached, bears⟩ := held
    have settled := ((reached.sound identified).node vehicle).receivers subscription
    cases present : ((state vehicle).receivers subscription).pending with
    | some message =>
      have taken : Takes peers.step state (.slot vehicle subscription) _ := takes_slot present
      refine ⟨[.slot vehicle subscription], _, .single taken, by simp [Action.Inside],
        ⟨reached.onward taken, ?_⟩, ?_⟩
      all_goals simp only [Function.update_self, Node.receive]
      · exact (bears.slot present unready).1
      · exact (bears.slot present unready).2
    | none =>
      have taken : Takes peers.step state (.iterate vehicle subscription) _ :=
        takes_iterate found present settled.faultless
      refine ⟨[.iterate vehicle subscription], _, .single taken, by simp [Action.Inside],
        ⟨reached.onward taken, ?_⟩, ?_⟩
      all_goals simp only [Function.update_self, Node.receive]
      · exact (bears.iterate (settled.framed trivial) present).1
      · exact (bears.iterate (settled.framed trivial) present).2
  obtain ⟨actions, final, run, inside, kept, ready⟩ := Run.descends
    (fun state : State ι => ((state vehicle).receivers subscription).waiting)
    (Action.Inside vehicle time telemetry) onward ⟨reached, bears⟩
  exact ⟨actions, final, run, inside, kept.1, ready⟩

/-- The loop works off its ring, down to the event. -/
theorem Reached.pops (reached : Reached peers nowMs message state) (vehicle : ι)
    {event : SmallSwarm.EventText} (yields : (state vehicle).Yields event) :
    ∃ actions next, Run (Takes peers.step) state actions next ∧
      (∀ action ∈ actions, action.Inside vehicle time telemetry) ∧
      (next vehicle).popped.getLast? = some event := by
  have onward (state : State ι)
      (held : Reached peers nowMs message state ∧ (state vehicle).Yields event)
      (unready : ¬ (state vehicle).popped.getLast? = some event) :
      ∃ actions next, Run (Takes peers.step) state actions next ∧
        (∀ action ∈ actions, action.Inside vehicle time telemetry) ∧
        (Reached peers nowMs message next ∧ (next vehicle).Yields event) ∧
        (next vehicle).held < (state vehicle).held := by
    obtain ⟨reached, yields⟩ := held
    obtain ⟨action, swarm, own, shown, stepped, onwards, less⟩ :=
      yields.loop (peers.vehicle vehicle).publish time telemetry unready (reached.defined vehicle)
    have taken : Takes peers.step state (.loop vehicle action) _ := takes_loop own stepped
    refine ⟨[.loop vehicle action], _, .single taken, ?_, ⟨reached.onward taken, ?_⟩, ?_⟩
    · simpa [Action.Inside] using shown
    · simpa only [Function.update_self] using onwards
    · simpa only [Function.update_self] using less
  obtain ⟨actions, final, run, inside, _, popped⟩ := Run.descends
    (fun state : State ι => (state vehicle).held) (Action.Inside vehicle time telemetry) onward
    ⟨reached, yields⟩
  exact ⟨actions, final, run, inside, popped⟩

/-- The slot leaves the event of its message as the last of the ring. -/
theorem slot_last (eventBuffer : Ring SmallSwarm.EventText SmallSwarm.eventRingSize) (vehicleId : Byte)
    (payload : ZMQ.Payload) :
    (SmallSwarm.slotZmqMessageArrived eventBuffer (ZmqPublish.frame vehicleId payload)).items.getLast? =
      some (SmallSwarm.payloadEvent vehicleId payload) := by
  rw [SmallSwarm.slot_event (SmallSwarm.eventOf_frame vehicleId payload)]
  by_cases room : eventBuffer.items.length < SmallSwarm.eventRingSize
  · rw [Ring.pushBack_room room]
    exact List.getLast?_concat
  · rw [Ring.pushBack_full room]
    have filled : eventBuffer.items ≠ [] := by
      intro empty
      simp [empty, SmallSwarm.eventRingSize] at room
    obtain ⟨oldest, rest, items⟩ := List.exists_cons_of_ne_nil filled
    rw [items]
    exact List.getLast?_concat

/-- A frame still ahead of its subscription can come in and through to the loop. -/
theorem Reached.delivers (identified : peers.Identified) (reached : Reached peers nowMs message state)
    {sender receiver : ι} {subscription index : Nat} {config : ZmqSubscribe.Config} {payload : ZMQ.Payload}
    (found : (peers.vehicle receiver).subscribes[subscription]? = some config)
    (named : config.vehicleId = (peers.vehicle sender).publish.vehicleId)
    (connected : config.remoteUrl = peers.url sender)
    (published : (state sender).published[index]? = some payload)
    (later : ((state receiver).receivers subscription).passed sender ≤ index) :
    ∃ actions final,
      Run (Takes peers.step) state (.arrive sender receiver subscription index :: actions) final ∧
      (∀ action ∈ actions, action.Inside receiver time telemetry) ∧
      (final receiver).popped.getLast? = some (SmallSwarm.payloadEvent config.vehicleId payload) := by
  have sent : (state sender).sent[index]? =
      some (ZmqPublish.frame config.vehicleId payload).bytes := by
    rw [((reached.sound identified).node sender).sent, List.getElem?_map, published, named]
    rfl
  have arrived : Takes peers.step state (.arrive sender receiver subscription index) _ :=
    takes_arrive found sent connected later
  obtain ⟨receives, middle, received, inside, between, ready⟩ :=
    (reached.onward arrived).emits time telemetry identified found payload (by
      simp only [Function.update_self, Node.receive, Receiver.arrive]
      exact .inl List.getLast?_concat)
  have slotted : Takes peers.step middle (.slot receiver subscription) _ := takes_slot ready
  obtain ⟨pops, final, popped, within, done⟩ :=
    (between.onward slotted).pops time telemetry receiver (.inl (by
      simp only [Function.update_self, Node.receive]
      exact slot_last _ _ _))
  refine ⟨receives ++ [.slot receiver subscription] ++ pops, final, ?_, ?_, done⟩
  · exact (Run.single arrived).trans ((received.trans (.single slotted)).trans popped)
  · intro action member
    simp only [List.mem_append, List.mem_singleton] at member
    rcases member with (early | rfl) | late
    · exact inside action early
    · rfl
    · exact within action late

/-- In every state the swarm can reach, each vehicle has a subscription to each other one
that has passed over nothing not sent yet; any payload that one published and the
subscription has not passed over can still come in, and the vehicle's own threads, whatever
they have waiting and whatever their clock and telemetry show, can take it to the loop. -/
theorem payloads_can_arrive (deployment : Deployment ι) (nowMs : ι → Int)
    (message : ι → Nat → Storage ZMQ.sizeofMessage) (actions : List (Action ι)) (state : State ι)
    (run : Run (Takes deployment.peers.step) (initial nowMs message) actions state)
    (sender receiver : ι) (different : sender ≠ receiver) (time : Int)
    (telemetry : Option MavVehicle.Telemetry) :
    ∃ (subscription : Nat) (config : ZmqSubscribe.Config),
      (deployment.vehicle receiver).subscribes[subscription]? = some config ∧
      config.vehicleId = (deployment.vehicle sender).publish.vehicleId ∧
      ((state receiver).receivers subscription).passed sender ≤ (state sender).published.length ∧
      ∀ index payload, (state sender).published[index]? = some payload →
        ((state receiver).receivers subscription).passed sender ≤ index →
        ∃ later final,
          Run (Takes deployment.peers.step) state
            (.arrive sender receiver subscription index :: later) final ∧
          (∀ action ∈ later, action.Inside receiver time telemetry) ∧
          (final receiver).popped.getLast? = some (SmallSwarm.payloadEvent config.vehicleId payload) := by
  obtain ⟨subscription, config, found, named, connected⟩ := deployment.subscribed different
  have reached : Reached deployment.peers nowMs message state := ⟨actions, run⟩
  have counted := reached.counted sender receiver subscription
  have sent := ((reached.sound deployment.identified).node sender).sent
  rw [sent, List.length_map] at counted
  refine ⟨subscription, config, found, named, counted, ?_⟩
  intro index payload published later
  exact reached.delivers time telemetry deployment.identified found named connected published later

/-- What the leader publishes first, the member's loop can take. -/
theorem payloads_can_arrive_sample :
    ∃ state later final,
      Run (Takes sampleDeployment.peers.step) (initial (fun _ => 0) fun _ _ => .zeros 35)
        [.publish true (.ofStorage (.zeros 32))] state ∧
      Run (Takes sampleDeployment.peers.step) state later final ∧
      (final false).popped.getLast? =
        some (SmallSwarm.payloadEvent ZMQ.vehicleIdLeader (.ofStorage (.zeros 32))) := by
  have run : Run (Takes sampleDeployment.peers.step) (initial (fun _ => 0) fun _ _ => .zeros 35)
      [.publish true (.ofStorage (.zeros 32))] _ := .single rfl
  obtain ⟨subscription, config, _, named, _, arrives⟩ :=
    payloads_can_arrive sampleDeployment _ _ _ _ run true false (by simp) 0 none
  obtain ⟨later, final, onward, _, popped⟩ := arrives 0 (.ofStorage (.zeros 32)) rfl (Nat.le_refl 0)
  have leader : config.vehicleId = ZMQ.vehicleIdLeader := named
  rw [leader] at popped
  exact ⟨_, _, final, run, onward, popped⟩

end VehicleRunner.Swarm
