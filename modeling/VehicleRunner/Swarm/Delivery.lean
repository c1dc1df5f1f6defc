import VehicleRunner.Swarm.Network

/-! Safety of the swarm: what a vehicle takes from its ring under a peer's id is a
subsequence of what that peer published. Each subscription is a lossy link from the peer's
`Publish` to the vehicle's loop, by way of queue, pending message and ring. The invariant
is about the subscriptions that are spared: those at which nothing comes in but frames of
the swarm. -/

namespace VehicleRunner.Swarm

open VehicleRunner.Foundation VehicleRunner.Bundle VehicleRunner.Plugin VehicleRunner.App

variable {ι : Type}

/-- The ids of a swarm name its vehicles, and a vehicle's subscriptions. -/
structure Peers.Identified (peers : Peers ι) : Prop where
  publishers : Function.Injective fun vehicle => (peers.vehicle vehicle).publish.vehicleId
  subscriptions : ∀ vehicle,
    ((peers.vehicle vehicle).subscribes.map ZmqSubscribe.Config.vehicleId).Nodup

/-- The payload a packet will yield to the subscriber of an id. -/
def worth (vehicleId : Byte) (packet : List Byte) : Option ZMQ.Payload :=
  match ZmqSubscribe.iterate vehicleId (.zeros ZMQ.sizeofMessage) (some packet) with
  | .ok (_, some message) => some message.payload
  | _ => none

theorem worth_frame (vehicleId sender : Byte) (payload : ZMQ.Payload) :
    worth vehicleId (ZmqPublish.frame sender payload).bytes =
      if sender = vehicleId then some payload else none := by
  rw [worth, ZmqSubscribe.iterate_frame]
  by_cases own : sender = vehicleId
  · simp [own, ZmqPublish.frame]
  · simp [own]

/-- Payloads of the events that carry an id. -/
def eventsOf (vehicleId : Byte) (events : List SmallSwarm.EventText) : List ZMQ.Payload :=
  (events.filter fun event => event.metadata.vehicleId = vehicleId).map SmallSwarm.EventText.payload

theorem eventsOf_append (vehicleId : Byte) (front back : List SmallSwarm.EventText) :
    eventsOf vehicleId (front ++ back) = eventsOf vehicleId front ++ eventsOf vehicleId back := by
  simp [eventsOf]

theorem eventsOf_sublist (vehicleId : Byte) {fewer events : List SmallSwarm.EventText}
    (sublist : fewer.Sublist events) : (eventsOf vehicleId fewer).Sublist (eventsOf vehicleId events) :=
  (sublist.filter _).map _

/-- The events a vehicle took, and those its ring still holds. -/
def Node.events (node : Node ι) : List SmallSwarm.EventText :=
  node.popped ++ node.swarm.eventBuffer.items

/-- Everything of a subscription that has arrived and is not lost, oldest first. -/
def carried (vehicleId : Byte) (events : List SmallSwarm.EventText) (receiver : Receiver ι) :
    List ZMQ.Payload :=
  eventsOf vehicleId events ++ (receiver.pending.toList.map ZMQ.Message.payload ++
    receiver.queue.filterMap (worth vehicleId))

/-- What holds of a subscription by itself: what it emitted bears the id subscribed to, and
its queue holds only frames if it is spared. -/
structure Receiver.Sound (spared : Prop) (subscribed : Option ZmqSubscribe.Config) (receiver : Receiver ι) :
    Prop where
  framed : spared → ∀ packet ∈ receiver.queue,
    ∃ sender payload, packet = (ZmqPublish.frame sender payload).bytes
  fits : ∀ packet ∈ receiver.queue, packet.length ≤ ZMQ.sizeofMessage
  pending : ∀ message, receiver.pending = some message →
    ∃ config, subscribed = some config ∧ message.header.vehicleId = config.vehicleId
  faultless : receiver.fault = none

/-- What holds of every vehicle by itself. -/
structure Node.Sound (spared : Nat → Prop) (vehicle : Vehicle) (node : Node ι) : Prop where
  sent : node.sent = node.published.map fun payload =>
    (ZmqPublish.frame vehicle.publish.vehicleId payload).bytes
  receivers : ∀ subscription,
    (node.receivers subscription).Sound (spared subscription) vehicle.subscribes[subscription]?
  known : ∀ event ∈ node.events, ∃ config ∈ vehicle.subscribes,
    config.vehicleId = event.metadata.vehicleId

/-- A change of one vehicle that lets nothing new into its spared subscriptions. -/
structure Node.Quiet (spared : Nat → Prop) (vehicle : Vehicle) (node next : Node ι) : Prop where
  published : node.published <+: next.published
  passed : ∀ subscription, (next.receivers subscription).passed = (node.receivers subscription).passed
  kept : ∀ subscription config, spared subscription → vehicle.subscribes[subscription]? = some config →
    (carried config.vehicleId next.events (next.receivers subscription)).Sublist
      (carried config.vehicleId node.events (node.receivers subscription))

theorem subscription_unique {configs : List ZmqSubscribe.Config}
    (distinct : (configs.map ZmqSubscribe.Config.vehicleId).Nodup) {first second : Nat}
    {config other : ZmqSubscribe.Config} (here : configs[first]? = some config)
    (there : configs[second]? = some other) (same : config.vehicleId = other.vehicleId) :
    first = second := by
  have below := (List.getElem?_eq_some_iff.mp here).1
  apply (List.getElem?_inj (by simpa using below) distinct).mp
  simp [here, there, same]

/-! ## Receiving -/

/-- A fact of every subscription needs checking only at the one that changed. -/
theorem receive_forall (Holds : Nat → Receiver ι → Prop) {subscription : Nat} {receiver : Receiver ι}
    {node : Node ι} (changed : Holds subscription receiver)
    (others : ∀ other, other ≠ subscription → Holds other (node.receivers other)) (other : Nat) :
    Holds other ((node.receive subscription receiver).receivers other) := by
  by_cases same : other = subscription
  · subst same
    simpa only [Node.receive, Function.update_self] using changed
  · simpa only [Node.receive, Function.update_of_ne same] using others other same

/-- A turn of the receive loop on frames moves at most one payload from the queue to the
pending message. -/
theorem Receiver.iterate_framed {receiver : Receiver ι} (vehicleId : Byte)
    (framed : ∀ packet ∈ receiver.queue,
      ∃ sender payload, packet = (ZmqPublish.frame sender payload).bytes) :
    ∃ message rest emitted,
      receiver.iterate vehicleId =
        { receiver with queue := rest, message := message, pending := emitted } ∧
      emitted.toList.map ZMQ.Message.payload ++ rest.filterMap (worth vehicleId) =
        receiver.queue.filterMap (worth vehicleId) := by
  cases waiting : receiver.queue with
  | nil =>
    refine ⟨receiver.message, [], none, ?_, rfl⟩
    simp only [Receiver.iterate, waiting, List.head?_nil, ZmqSubscribe.iterate_timeout, List.tail_nil]
  | cons packet rest =>
    obtain ⟨sender, payload, rfl⟩ := framed packet (by simp [waiting])
    refine ⟨(ZmqPublish.frame sender payload).storage, rest,
      if sender = vehicleId then some (ZmqPublish.frame sender payload) else none, ?_, ?_⟩
    · simp only [Receiver.iterate, waiting, List.head?_cons, ZmqSubscribe.iterate_frame,
        List.tail_cons]
    · by_cases own : sender = vehicleId
      · simp only [own, ↓reduceIte, Option.toList_some, List.map_cons, List.map_nil,
          List.filterMap_cons, worth_frame]
        rfl
      · simp only [own, ↓reduceIte, Option.toList_none, List.map_nil, List.nil_append,
          List.filterMap_cons, worth_frame]

/-- A turn on any packet that fits emits nothing but the id subscribed to. -/
theorem iterate_own (vehicleId : Byte) (message : Storage ZMQ.sizeofMessage) (result : Option (List Byte))
    (fits : ∀ packet, result = some packet → packet.length ≤ ZMQ.sizeofMessage) :
    ∃ copied emitted, ZmqSubscribe.iterate vehicleId message result = .ok (copied, emitted) ∧
      ∀ message, emitted = some message → message.header.vehicleId = vehicleId := by
  cases result with
  | none => exact ⟨message, none, ZmqSubscribe.iterate_timeout vehicleId message, nofun⟩
  | some packet =>
    by_cases present : 0 < packet.length
    · obtain ⟨copied, bytes, turn⟩ := ZmqSubscribe.iterate_fits vehicleId message present (fits packet rfl)
      refine ⟨copied, _, turn, ?_⟩
      intro message emitted
      obtain ⟨passed, same⟩ := Option.ite_none_right_eq_some.mp emitted
      cases same
      have first : copied.bytes[0]? = some (ZMQ.Message.ofStorage copied).header.vehicleId :=
        copied.getElem?_byteAt (by decide)
      rw [bytes, List.getElem?_append_left present, passed.1] at first
      exact (Option.some.inj first).symm
    · have empty : packet = [] := List.eq_nil_of_length_eq_zero (Nat.eq_zero_of_not_pos present)
      subst packet
      exact ⟨message, none, ZmqSubscribe.iterate_empty vehicleId message, nofun⟩

theorem Receiver.Sound.iterate {spared : Prop} {config : ZmqSubscribe.Config} {receiver : Receiver ι}
    (sound : receiver.Sound spared (some config)) :
    (receiver.iterate config.vehicleId).Sound spared (some config) := by
  obtain ⟨copied, emitted, turn, own⟩ :=
    iterate_own config.vehicleId receiver.message receiver.queue.head? fun packet front =>
      sound.fits packet (List.mem_of_head? front)
  simp only [Receiver.iterate, turn]
  exact
    { framed := fun spared packet member => sound.framed spared packet (List.mem_of_mem_tail member)
      fits := fun packet member => sound.fits packet (List.mem_of_mem_tail member)
      pending := fun message present => ⟨config, rfl, own message present⟩
      faultless := sound.faultless }

/-- A packet that fits joins the end of the queue; at a spared subscription it is a frame. -/
theorem Receiver.Sound.queued {spared : Prop} {subscribed : Option ZmqSubscribe.Config}
    {receiver : Receiver ι} (sound : receiver.Sound spared subscribed) {packet : List Byte}
    (framed : spared → ∃ sender payload, packet = (ZmqPublish.frame sender payload).bytes)
    (fits : packet.length ≤ ZMQ.sizeofMessage) (passed : ι → Nat) :
    Receiver.Sound spared subscribed
      { receiver with queue := receiver.queue ++ [packet], passed := passed } where
  framed := by
    intro spared other member
    rcases List.mem_append.mp member with old | new
    · exact sound.framed spared other old
    · rw [List.mem_singleton.mp new]
      exact framed spared
  fits := by
    intro other member
    rcases List.mem_append.mp member with old | new
    · exact sound.fits other old
    · rw [List.mem_singleton.mp new]
      exact fits
  pending := sound.pending
  faultless := sound.faultless

theorem Receiver.Sound.arrive [DecidableEq ι] {spared : Prop} {subscribed : Option ZmqSubscribe.Config}
    {receiver : Receiver ι} (sound : receiver.Sound spared subscribed) (publisher : ι) (index : Nat)
    (sender : Byte) (payload : ZMQ.Payload) :
    (receiver.arrive publisher index (ZmqPublish.frame sender payload).bytes).Sound spared subscribed :=
  sound.queued (fun _ => ⟨sender, payload, rfl⟩) (ZMQ.Message.bytes_length _).le _

theorem carried_arrive [DecidableEq ι] (vehicleId : Byte) (events : List SmallSwarm.EventText)
    (receiver : Receiver ι) (publisher : ι) (index : Nat) (packet : List Byte) :
    carried vehicleId events (receiver.arrive publisher index packet) =
      carried vehicleId events receiver ++ (worth vehicleId packet).toList := by
  cases value : worth vehicleId packet <;> simp [carried, Receiver.arrive, value]

/-! ## The slot -/

theorem eventOf_header {message : ZMQ.Message} {event : SmallSwarm.EventText}
    (kept : SmallSwarm.eventOf message = some event) :
    event.metadata = message.header ∧ event.payload = message.payload := by
  unfold SmallSwarm.eventOf at kept
  split at kept
  · cases kept
    exact ⟨rfl, rfl⟩
  · cases kept

theorem eventsOf_emitted (vehicleId : Byte) (message : ZMQ.Message) :
    (eventsOf vehicleId (SmallSwarm.eventOf message).toList).Sublist [message.payload] := by
  cases kept : SmallSwarm.eventOf message with
  | none => exact List.nil_sublist _
  | some event =>
    rw [← (eventOf_header kept).2]
    exact List.filter_sublist.map _

theorem eventsOf_foreign {vehicleId : Byte} {message : ZMQ.Message}
    (foreign : message.header.vehicleId ≠ vehicleId) :
    eventsOf vehicleId (SmallSwarm.eventOf message).toList = [] := by
  cases kept : SmallSwarm.eventOf message with
  | none => rfl
  | some event => simp [eventsOf, (eventOf_header kept).1, foreign]

theorem slot_items (eventBuffer : Ring SmallSwarm.EventText SmallSwarm.eventRingSize)
    (message : ZMQ.Message) :
    (SmallSwarm.slotZmqMessageArrived eventBuffer message).items.Sublist
      (eventBuffer.items ++ (SmallSwarm.eventOf message).toList) := by
  cases kept : SmallSwarm.eventOf message with
  | none => simp [SmallSwarm.slot_other kept]
  | some event =>
    rw [SmallSwarm.slot_event kept]
    exact (Ring.pushBack_suffix _ _).sublist

/-- A slot adds to the events of a vehicle at most the one its message is worth. -/
theorem slot_events (vehicleId : Byte) (popped : List SmallSwarm.EventText)
    (eventBuffer : Ring SmallSwarm.EventText SmallSwarm.eventRingSize) (message : ZMQ.Message) :
    (eventsOf vehicleId (popped ++ (SmallSwarm.slotZmqMessageArrived eventBuffer message).items)).Sublist
      (eventsOf vehicleId (popped ++ eventBuffer.items) ++
        eventsOf vehicleId (SmallSwarm.eventOf message).toList) := by
  rw [← eventsOf_append, List.append_assoc]
  exact eventsOf_sublist vehicleId ((List.Sublist.refl _).append (slot_items eventBuffer message))

/-! ## One vehicle -/

variable {spared : Nat → Prop} {vehicle : Vehicle} {node : Node ι}

theorem Node.Sound.receive (sound : node.Sound spared vehicle) {subscription : Nat} {receiver : Receiver ι}
    (settled : receiver.Sound (spared subscription) vehicle.subscribes[subscription]?) :
    (node.receive subscription receiver).Sound spared vehicle :=
  { sound with
    receivers := receive_forall
      (fun other receiver => receiver.Sound (spared other) vehicle.subscribes[other]?)
      settled fun other _ => sound.receivers other }

/-- One subscription changes after the rest of its vehicle has. -/
theorem Node.Quiet.receive {changed : Node ι} {subscription : Nat} {receiver : Receiver ι}
    (published : node.published <+: changed.published) (receivers : changed.receivers = node.receivers)
    (passed : receiver.passed = (node.receivers subscription).passed)
    (here : ∀ config, spared subscription → vehicle.subscribes[subscription]? = some config →
      (carried config.vehicleId changed.events receiver).Sublist
        (carried config.vehicleId node.events (node.receivers subscription)))
    (elsewhere : ∀ other, other ≠ subscription → ∀ config, vehicle.subscribes[other]? = some config →
      (eventsOf config.vehicleId changed.events).Sublist (eventsOf config.vehicleId node.events)) :
    node.Quiet spared vehicle (changed.receive subscription receiver) where
  published := published
  passed := receive_forall (fun other receiver => receiver.passed = (node.receivers other).passed)
    passed fun other _ => by rw [receivers]
  kept := receive_forall (fun other receiver => ∀ config, spared other →
    vehicle.subscribes[other]? = some config →
    (carried config.vehicleId changed.events receiver).Sublist
      (carried config.vehicleId node.events (node.receivers other)))
    here fun other different config _ found => by
      rw [receivers]
      exact (elsewhere other different config found).append (List.Sublist.refl _)

theorem Node.Sound.iterate (sound : node.Sound spared vehicle) {subscription : Nat}
    {config : ZmqSubscribe.Config} (found : vehicle.subscribes[subscription]? = some config)
    (idle : (node.receivers subscription).pending = none) :
    (node.receive subscription ((node.receivers subscription).iterate config.vehicleId)).Sound
        spared vehicle ∧
      node.Quiet spared vehicle
        (node.receive subscription ((node.receivers subscription).iterate config.vehicleId)) := by
  have before := sound.receivers subscription
  rw [found] at before
  refine ⟨sound.receive (found ▸ before.iterate), ?_⟩
  refine Node.Quiet.receive (List.prefix_refl _) rfl ?_ ?_ fun _ _ _ _ => List.Sublist.refl _
  · obtain ⟨_, _, turn, _⟩ := iterate_own config.vehicleId (node.receivers subscription).message
      (node.receivers subscription).queue.head? fun packet front =>
        before.fits packet (List.mem_of_head? front)
    simp only [Receiver.iterate, turn]
  · intro configured untouched present
    obtain rfl : config = configured := Option.some.inj (found.symm.trans present)
    obtain ⟨_, _, _, turn, moved⟩ :=
      Receiver.iterate_framed config.vehicleId (before.framed untouched)
    simp only [turn, carried, moved, idle]
    exact List.Sublist.refl _

theorem Node.Sound.slot (sound : node.Sound spared vehicle)
    (distinct : (vehicle.subscribes.map ZmqSubscribe.Config.vehicleId).Nodup) {subscription : Nat}
    {message : ZMQ.Message} {swarm : SmallSwarm.State}
    (present : (node.receivers subscription).pending = some message)
    (stepped : SmallSwarm.step node.swarm (.slot message) = some swarm) :
    ({ node with swarm := swarm }.receive subscription
        { node.receivers subscription with pending := none }).Sound spared vehicle ∧
      node.Quiet spared vehicle ({ node with swarm := swarm }.receive subscription
        { node.receivers subscription with pending := none }) := by
  have before := sound.receivers subscription
  obtain ⟨config, found, own⟩ := before.pending message present
  cases Option.some.inj stepped
  have events (vehicleId : Byte) := slot_events vehicleId node.popped node.swarm.eventBuffer message
  constructor
  · apply Node.Sound.receive
    · refine { sent := sound.sent, receivers := sound.receivers, known := ?_ }
      intro event member
      rcases List.mem_append.mp member with taken | held
      · exact sound.known event (List.mem_append_left _ taken)
      · rcases List.mem_append.mp ((slot_items _ _).subset held) with old | new
        · exact sound.known event (List.mem_append_right _ old)
        · obtain ⟨metadata, _⟩ := eventOf_header (Option.mem_toList.mp new)
          exact ⟨config, List.mem_of_getElem? found, by rw [metadata, own]⟩
    · exact { framed := before.framed, fits := before.fits, pending := nofun, faultless := before.faultless }
  · refine Node.Quiet.receive (List.prefix_refl _) rfl rfl ?_ ?_
    · intro configured _ here
      have emitted := (events configured.vehicleId).trans
        ((List.Sublist.refl _).append (eventsOf_emitted configured.vehicleId message))
      simp only [carried, present, Option.toList_none, List.map_nil, List.nil_append,
        Option.toList_some, List.map_cons]
      rw [← List.append_assoc]
      exact emitted.append (List.Sublist.refl _)
    · intro other different configured here
      have foreign : message.header.vehicleId ≠ configured.vehicleId := fun same =>
        different (subscription_unique distinct here found (own ▸ same).symm)
      have others := events configured.vehicleId
      rwa [eventsOf_foreign foreign, List.append_nil] at others

/-- A change that touches neither the events nor the subscriptions; what it publishes it
sends. -/
theorem Node.Sound.still (sound : node.Sound spared vehicle) {next : Node ι}
    (receivers : next.receivers = node.receivers) (events : next.events = node.events)
    (sent : next.sent = next.published.map fun payload =>
      (ZmqPublish.frame vehicle.publish.vehicleId payload).bytes)
    (published : node.published <+: next.published) :
    next.Sound spared vehicle ∧ node.Quiet spared vehicle next := by
  constructor
  · exact
      { sent := sent
        receivers := by rw [receivers]; exact sound.receivers
        known := by rw [events]; exact sound.known }
  · exact
      { published := published
        passed := fun _ => by rw [receivers]
        kept := fun _ _ _ _ => by rw [receivers, events] }

theorem Node.Sound.publish (sound : node.Sound spared vehicle) (payload : ZMQ.Payload) :
    (node.publish vehicle.publish payload).Sound spared vehicle ∧
      node.Quiet spared vehicle (node.publish vehicle.publish payload) := by
  refine sound.still rfl rfl ?_ (List.prefix_append _ _)
  simp [Node.publish, ZmqPublish.publish_payload, sound.sent]

theorem Node.Sound.loop (sound : node.Sound spared vehicle) {action : SmallSwarm.Action}
    (own : ofLoop action = true) {swarm : SmallSwarm.State}
    (stepped : SmallSwarm.step node.swarm action = some swarm) :
    (node.loop vehicle.publish action swarm).Sound spared vehicle ∧
      node.Quiet spared vehicle (node.loop vehicle.publish action swarm) := by
  cases SmallSwarm.step_cases stepped with
  | slot message => cases own
  | popped _ front =>
    refine sound.still rfl ?_ sound.sent (List.prefix_refl _)
    simp only [Node.loop, Node.events, front, Ring.popFront?_some front, Option.map_some,
      Option.toList_some, List.append_assoc, List.singleton_append]
  | undefined _ empty =>
    refine sound.still rfl ?_ sound.sent (List.prefix_refl _)
    simp only [Node.loop, Node.events, empty, Option.map_none, Option.toList_none, List.append_nil]
  | publish _ =>
    refine sound.still rfl rfl ?_ (List.prefix_append _ _)
    simp [Node.loop, Node.publish, ZmqPublish.publish_payload, sound.sent]
  | _ => exact sound.still rfl rfl sound.sent (List.prefix_refl _)

/-! ## The whole swarm -/

/-- Every vehicle is sound, and every spared subscription carries a subsequence of what the
vehicle it names has published. -/
structure Resists (peers : Peers ι) (spared : ι → Nat → Prop) (state : State ι) : Prop where
  node : ∀ vehicle, (state vehicle).Sound (spared vehicle) (peers.vehicle vehicle)
  carries : ∀ sender receiver subscription config, spared receiver subscription →
    (peers.vehicle receiver).subscribes[subscription]? = some config →
    config.vehicleId = (peers.vehicle sender).publish.vehicleId →
    Carries (state sender).published (((state receiver).receivers subscription).passed sender)
      (carried config.vehicleId (state receiver).events ((state receiver).receivers subscription))

theorem initial_resists (peers : Peers ι) (spared : ι → Nat → Prop) (nowMs : ι → Int)
    (message : ι → Nat → Storage ZMQ.sizeofMessage) : Resists peers spared (initial nowMs message) where
  node _ :=
    { sent := rfl
      receivers := fun _ => ⟨fun _ => nofun, nofun, nofun, rfl⟩
      known := nofun }
  carries _ _ _ _ _ _ _ := .nothing _ _

/-- Nothing comes in from elsewhere at any subscription. -/
abbrev Sound (peers : Peers ι) (state : State ι) : Prop := Resists peers (fun _ _ => True) state

theorem initial_sound (peers : Peers ι) (nowMs : ι → Int)
    (message : ι → Nat → Storage ZMQ.sizeofMessage) : Sound peers (initial nowMs message) :=
  initial_resists peers _ nowMs message

variable {peers : Peers ι} {untouched : ι → Nat → Prop} {state next : State ι}

/-- Events under a peer's id are payloads of that peer, in its order, unless somebody has
injected into the subscription to it. -/
theorem Resists.delivered (resists : Resists peers untouched state) {sender receiver : ι}
    (whole : ∀ subscription config, (peers.vehicle receiver).subscribes[subscription]? = some config →
      config.vehicleId = (peers.vehicle sender).publish.vehicleId → untouched receiver subscription) :
    (eventsOf (peers.vehicle sender).publish.vehicleId (state receiver).popped).Sublist
      (state sender).published := by
  rcases Classical.em (∃ event ∈ (state receiver).popped,
    event.metadata.vehicleId = (peers.vehicle sender).publish.vehicleId) with some | none
  · obtain ⟨event, member, named⟩ := some
    obtain ⟨config, listed, same⟩ :=
      (resists.node receiver).known event (List.mem_append_left _ member)
    obtain ⟨subscription, found⟩ := List.getElem?_of_mem listed
    have own := same.trans named
    have carries := resists.carries sender receiver subscription config
      (whole subscription config found own) found own
    rw [← own]
    have popped : (eventsOf config.vehicleId (state receiver).popped).Sublist
        (eventsOf config.vehicleId (state receiver).events) :=
      eventsOf_sublist _ (List.sublist_append_left _ _)
    exact (carries.lose (popped.trans (List.sublist_append_left _ _))).sublist
  · have empty : (state receiver).popped.filter (fun event =>
        event.metadata.vehicleId = (peers.vehicle sender).publish.vehicleId) = [] :=
      List.filter_eq_nil_iff.mpr fun event member named =>
        none ⟨event, member, of_decide_eq_true named⟩
    rw [eventsOf, empty]
    exact List.nil_sublist _

theorem Sound.delivered (sound : Sound peers state) (sender receiver : ι) :
    (eventsOf (peers.vehicle sender).publish.vehicleId (state receiver).popped).Sublist
      (state sender).published :=
  Resists.delivered sound fun _ _ _ _ => trivial

variable [DecidableEq ι]

/-- One vehicle changes, and its spared subscriptions still carry what they should. -/
theorem Resists.change (resists : Resists peers untouched state) {vehicle : ι} {changed : Node ι}
    (settled : changed.Sound (untouched vehicle) (peers.vehicle vehicle))
    (grown : (state vehicle).published <+: changed.published)
    (carries : ∀ subscription config, untouched vehicle subscription →
      (peers.vehicle vehicle).subscribes[subscription]? = some config →
      ∀ sender, config.vehicleId = (peers.vehicle sender).publish.vehicleId →
      Carries (state sender).published ((changed.receivers subscription).passed sender)
        (carried config.vehicleId changed.events (changed.receivers subscription))) :
    Resists peers untouched (Function.update state vehicle changed) := by
  refine ⟨?_, ?_⟩
  · exact (Function.forall_update_iff state fun other node =>
      node.Sound (untouched other) (peers.vehicle other)).mpr ⟨settled, fun other _ => resists.node other⟩
  · intro sender receiver subscription config spared found named
    have published : (state sender).published <+: (Function.update state vehicle changed sender).published := by
      by_cases same : sender = vehicle
      · subst same
        simpa only [Function.update_self] using grown
      · rw [Function.update_of_ne same]
    refine Carries.grow ?_ published
    by_cases same : receiver = vehicle
    · subst same
      simpa only [Function.update_self] using carries subscription config spared found sender named
    · simpa only [Function.update_of_ne same] using
        resists.carries sender receiver subscription config spared found named

theorem Resists.quiet (resists : Resists peers untouched state) {vehicle : ι} {changed : Node ι}
    (settled : changed.Sound (untouched vehicle) (peers.vehicle vehicle))
    (quiet : (state vehicle).Quiet (untouched vehicle) (peers.vehicle vehicle) changed) :
    Resists peers untouched (Function.update state vehicle changed) := by
  refine resists.change settled quiet.published ?_
  intro subscription config spared found sender named
  rw [quiet.passed subscription]
  exact (resists.carries sender vehicle subscription config spared found named).lose
    (quiet.kept subscription config spared found)

theorem Resists.arrive (identified : peers.Identified) (resists : Resists peers untouched state)
    {publisher subscriber : ι} {subscription index : Nat} {packet : List Byte}
    (sent : (state publisher).sent[index]? = some packet)
    (later : ((state subscriber).receivers subscription).passed publisher ≤ index) :
    Resists peers untouched (Function.update state subscriber ((state subscriber).receive subscription
      (((state subscriber).receivers subscription).arrive publisher index packet))) := by
  rw [(resists.node publisher).sent, List.getElem?_map, Option.map_eq_some_iff] at sent
  obtain ⟨payload, published, rfl⟩ := sent
  have sound := resists.node subscriber
  refine resists.change (sound.receive ((sound.receivers subscription).arrive _ _ _ _))
    (List.prefix_refl _) ?_
  apply receive_forall fun other receiver => ∀ config, untouched subscriber other →
    (peers.vehicle subscriber).subscribes[other]? = some config →
    ∀ sender, config.vehicleId = (peers.vehicle sender).publish.vehicleId →
    Carries (state sender).published (receiver.passed sender)
      (carried config.vehicleId (state subscriber).events receiver)
  · intro config spared found sender named
    have carries := resists.carries sender subscriber subscription config spared found named
    rw [carried_arrive, worth_frame]
    by_cases own : publisher = sender
    · subst own
      simpa only [named, ↓reduceIte, Option.toList_some, Receiver.arrive, Function.update_self]
        using carries.arrive later published
    · have foreign : (peers.vehicle publisher).publish.vehicleId ≠ config.vehicleId := fun same =>
        own (identified.publishers (same.trans named))
      simpa only [foreign, ↓reduceIte, Option.toList_none, List.append_nil, Receiver.arrive,
        Function.update_of_ne (Ne.symm own)] using carries
  · intro other _ config spared found sender named
    exact resists.carries sender subscriber other config spared found named

theorem Resists.step (identified : peers.Identified) (resists : Resists peers untouched state)
    {action : Action ι} (taken : peers.step state action = some next) : Resists peers untouched next := by
  cases Peers.step_cases taken with
  | @publish vehicle payload =>
    obtain ⟨settled, quiet⟩ := (resists.node vehicle).publish payload
    exact resists.quiet settled quiet
  | arrive _ sent _ later => exact resists.arrive identified sent later
  | @iterate vehicle _ _ found idle _ =>
    obtain ⟨settled, quiet⟩ := (resists.node vehicle).iterate found idle
    exact resists.quiet settled quiet
  | @slot vehicle _ _ _ present stepped =>
    obtain ⟨settled, quiet⟩ :=
      (resists.node vehicle).slot (identified.subscriptions vehicle) present stepped
    exact resists.quiet settled quiet
  | @loop _ vehicle _ own stepped =>
    obtain ⟨settled, quiet⟩ := (resists.node vehicle).loop own stepped
    exact resists.quiet settled quiet

theorem Sound.step (identified : peers.Identified) (sound : Sound peers state) {action : Action ι}
    (taken : peers.step state action = some next) : Sound peers next :=
  Resists.step identified sound taken

theorem Sound.run (identified : peers.Identified) {start final : State ι} {actions : List (Action ι)}
    (sound : Sound peers start) (run : Run (Takes peers.step) start actions final) :
    Sound peers final :=
  run.invariant sound fun _ _ _ kept taken => kept.step identified taken

end VehicleRunner.Swarm
