import VehicleRunner.Foundation.Recollection
import VehicleRunner.Foundation.Storage
import VehicleRunner.Bundle.MqttSession

/-! Messages both ways through the client, and what its two lists amount to: a memory of
topics. The lists lose a topic only where it was asked for between a link-up and its
connected callback, and then only with that link. -/

namespace VehicleRunner.Bundle.MqttClient

open VehicleRunner.Foundation

structure Packet where
  topic : String
  data : List Byte
  qos : Int
  retained : Bool
  deriving DecidableEq

/-- A call of a slot of the client's signal. -/
structure Call where
  slot : Nat
  topic : String
  context : List Byte
  deriving DecidableEq

/-- What is handed to the library. -/
def publish (isConnected : Bool) (packet : Packet) (state : State) : List Packet :=
  if state.mqttClient.isSome && isConnected then [packet] else []

/-- The payload is copied over a string of as many zeros, and every slot is called with it. -/
def messageArrived (slots : List Nat) (topic : String) (payload : List Byte) : List Call :=
  match (Storage.zeros payload.length).memcpy payload with
  | .ok context => slots.map fun slot => ⟨slot, topic, context.bytes⟩
  | .error _ => []

theorem messageArrived_eq (slots : List Nat) (topic : String) (payload : List Byte) :
    messageArrived slots topic payload = slots.map fun slot => ⟨slot, topic, payload⟩ := by
  obtain ⟨context, copied, bytes⟩ := (Storage.zeros payload.length).memcpy_ok (le_refl payload.length)
  rw [messageArrived, copied]
  simp [bytes, Storage.zeros]

/-- The session with the slots connected to the signal, their calls so far, and what was
handed to the library on a live link. -/
structure Exchange where
  session : Session
  slots : List Nat
  calls : List Call
  sent : List Packet

namespace Exchange

inductive Action where
  | session (action : MqttClient.Action)
  | connect (slot : Nat)
  | publish (packet : Packet)
  | offered (topic : String) (payload : List Byte)
  deriving DecidableEq

def created (config : Config) : Exchange := ⟨MqttClient.created config, [], [], []⟩

/-- `Stop` disconnects every slot first. A message is offered at the broker, which sends it
on while it holds the topic for this client. -/
def step (exchange : Exchange) : Action → Option Exchange
  | .session action =>
    (MqttClient.step exchange.session action).map fun session =>
      { exchange with session := session, slots := if action = .stop then [] else exchange.slots }
  | .connect slot => some { exchange with slots := exchange.slots ++ [slot] }
  | .publish packet =>
    let handed := MqttClient.publish exchange.session.online packet exchange.session.client
    some { exchange with sent := exchange.sent ++ handed }
  | .offered topic payload =>
    let arrived :=
      if exchange.session.online = true ∧ topic ∈ exchange.session.broker then
        messageArrived exchange.slots topic payload
      else []
    some { exchange with calls := exchange.calls ++ arrived }

end Exchange

/-! ## The service the client is for -/

structure Service where
  made : Bool
  memory : Memory String
  slots : List Nat
  calls : List Call
  sent : List Packet

namespace Service

def created : Service := ⟨false, .empty, [], [], []⟩

/-- What an action changes of the memory. -/
def change? : MqttClient.Action → Option (Memory.Change String)
  | .subscribe topic _ => some (.ask topic)
  | .linkUp => some .rise
  | .connected => some .settle
  | .linkDown => some .fall
  | _ => none

def act (service : Service) : Exchange.Action → Service
  | .session (.exec _) => { service with made := true }
  | .session .stop =>
    { service with
      made := false
      memory := if service.made then .empty else service.memory
      slots := [] }
  | .session action =>
    { service with memory := (change? action).elim service.memory service.memory.change }
  | .connect slot => { service with slots := service.slots ++ [slot] }
  | .publish packet =>
    { service with
      sent := service.sent ++ if service.memory.link = .down then [] else [packet] }
  | .offered topic payload =>
    let owed :=
      if service.memory.serves topic then service.slots.map fun slot => ⟨slot, topic, payload⟩
      else []
    { service with calls := service.calls ++ owed }

end Service

/-! ## One step -/

def linkOf (session : Session) : Link :=
  if session.online then if session.pending = some .connected then .rising else .up else .down

/-- The lists and the broker, read as a memory of topics. -/
structure Recalls (session : Session) (memory : Memory String) : Prop where
  ordered : Ordered session
  settled : session.online = true → session.pending ≠ some .connectionLost
  away : session.online = false → session.pending = none →
    session.client.subscribedTopicList = []
  link : memory.link = linkOf session
  kept : ∀ topic, topic ∈ memory.kept ↔ topic ∈ topics session.client.lazySubscriptionList ∨
    (memory.link ≠ .rising ∧ topic ∈ topics session.client.subscribedTopicList)
  fresh : memory.link = .rising →
    ∀ topic, topic ∈ memory.fresh ↔ topic ∈ topics session.client.subscribedTopicList
  broker : session.online = true → ∀ topic, topic ∈ session.broker ↔ memory.serves topic = true

theorem created_recalls (config : Config) : Recalls (created config) .empty where
  ordered := created_ordered config
  settled := by simp [created]
  away := by simp [created]
  link := rfl
  kept := by simp [created, Memory.empty, topics]
  fresh := by simp [Memory.empty]
  broker := by simp [created]

theorem Recalls.down {session : Session} {memory : Memory String}
    (recalls : Recalls session memory) (offline : session.online = false) :
    memory.link = .down := by
  rw [recalls.link, linkOf, offline]
  rfl

theorem Recalls.rising {session : Session} {memory : Memory String}
    (recalls : Recalls session memory) (due : session.pending = some .connected) :
    memory.link = .rising := by
  rw [recalls.link, linkOf, recalls.ordered.up due, due]
  rfl

theorem Recalls.up {session : Session} {memory : Memory String}
    (recalls : Recalls session memory) (online : session.online = true)
    (ran : session.pending ≠ some .connected) : memory.link = .up := by
  simp [recalls.link, linkOf, online, ran]

theorem Recalls.not_rising {session : Session} {memory : Memory String}
    (recalls : Recalls session memory) (ran : session.pending ≠ some .connected) :
    memory.link ≠ .rising := by
  cases online : session.online with
  | false => simp [recalls.down online]
  | true => simp [recalls.up online ran]

/-- A topic already on the list that is looked at. -/
theorem Recalls.known {session : Session} {memory : Memory String}
    (recalls : Recalls session memory) {topic : String}
    (listed : (memory.link ≠ .down ∧ topic ∈ topics session.client.subscribedTopicList) ∨
      (memory.link = .down ∧ topic ∈ topics session.client.lazySubscriptionList)) :
    memory.ask topic = memory := by
  apply Memory.ask_known
  · intro rising
    rcases listed with ⟨_, held⟩ | ⟨down, _⟩
    · exact (recalls.fresh rising topic).mpr held
    · cases down.symm.trans rising
  · intro settled
    rcases listed with ⟨_, held⟩ | ⟨_, waits⟩
    · exact (recalls.kept topic).mpr (.inr ⟨settled, held⟩)
    · exact (recalls.kept topic).mpr (.inl waits)

/-- The link of a live request is not down, and that of any other is. -/
theorem Recalls.live_iff {session : Session} {memory : Memory String}
    (recalls : Recalls session memory) :
    (session.client.mqttClient.isSome = true ∧ session.online = true) ↔ memory.link ≠ .down := by
  cases online : session.online with
  | false => simp [recalls.down online]
  | true =>
    have live := recalls.ordered.live online
    by_cases due : session.pending = some .connected
    · simp [recalls.rising due, live]
    · simp [recalls.up online due, live]

theorem Recalls.subscribe {session next : Session} {memory : Memory String} {topic : String}
    {qos : QoS} (recalls : Recalls session memory)
    (taken : step session (.subscribe topic qos) = some next) :
    Recalls next (memory.ask topic) := by
  have ordered := recalls.ordered.step taken
  cases taken
  -- Nothing is sent or listed: only the request itself is new.
  have again (known : memory.ask topic = memory)
      (same : MqttClient.subscribe session.online topic qos session.client = (session.client, [])) :
      Recalls { session with
        client := (MqttClient.subscribe session.online topic qos session.client).1
        broker := session.served (MqttClient.subscribe session.online topic qos session.client).2
        requested := insert topic session.requested } (memory.ask topic) := by
    rw [known]
    simp only [same] at ordered ⊢
    refine ⟨ordered, recalls.settled, recalls.away, recalls.link, recalls.kept, recalls.fresh, ?_⟩
    simpa [Session.served] using recalls.broker
  rcases subscribe_cases session.online topic qos session.client with
    ⟨live, ⟨held, same⟩ | ⟨unheld, same⟩⟩ | ⟨away, ⟨waits, same⟩ | ⟨unlisted, same⟩⟩
  · exact again (recalls.known (.inl ⟨recalls.live_iff.mp live, held⟩)) same
  · simp only [same] at ordered ⊢
    have online := live.2
    have held := recalls.broker online
    by_cases rising : memory.link = .rising
    · rw [Memory.ask_rising rising]
      refine ⟨ordered, recalls.settled, by simp [online], recalls.link, ?_, ?_, ?_⟩
      · intro other
        simp [recalls.kept other, rising]
      · intro _ other
        rw [Finset.mem_insert, recalls.fresh rising other, mem_topics_added, or_comm]
      · intro _ other
        simp [Session.served, online, serve, held, Memory.serves_rising, rising]
    · have up : memory.link = .up := by
        cases link : memory.link with
        | down => exact absurd link (recalls.live_iff.mp live)
        | rising => exact absurd link rising
        | up => rfl
      rw [Memory.ask_kept rising]
      refine ⟨ordered, recalls.settled, by simp [online], recalls.link, ?_, ?_, ?_⟩
      · intro other
        rw [Finset.mem_insert, recalls.kept other, mem_topics_added]
        simp [rising, or_comm, or_assoc]
      · intro contra
        exact absurd contra rising
      · intro _ other
        simp [Session.served, online, serve, held, Memory.serves_up, up, or_assoc]
  · have down : memory.link = .down := not_not.mp fun other => away (recalls.live_iff.mpr other)
    exact again (recalls.known (.inr ⟨down, waits⟩)) same
  · have down : memory.link = .down := not_not.mp fun other => away (recalls.live_iff.mpr other)
    have offline : session.online = false := by
      by_contra online
      have online : session.online = true := by simpa using online
      exact away ⟨recalls.ordered.live online, online⟩
    simp only [same] at ordered ⊢
    rw [Memory.ask_kept (by simp [down])]
    refine ⟨ordered, recalls.settled, recalls.away, recalls.link, ?_, ?_, by simp [offline]⟩
    · intro other
      rw [Finset.mem_insert, recalls.kept other, mem_topics_added]
      simp [or_comm, or_left_comm]
    · intro contra
      cases down.symm.trans contra

theorem Recalls.rise {session next : Session} {memory : Memory String}
    (recalls : Recalls session memory) (taken : step session .linkUp = some next) :
    Recalls next memory.rise := by
  have ordered := recalls.ordered.step taken
  obtain ⟨⟨_, offline, idle⟩, same⟩ := Option.ite_none_right_eq_some.mp taken
  cases same
  have empty := recalls.away offline idle
  refine ⟨ordered, by simp, by simp, rfl, ?_, ?_, ?_⟩
  · intro topic
    simp [Memory.rise, recalls.kept topic, empty, topics]
  · intro _ topic
    simp [Memory.rise, empty, topics]
  · intro _ topic
    simp [Memory.rise, Memory.serves]

/-- The lazy list is asked for again; what was asked for since the link-up is on no list. -/
theorem Recalls.settle {session next : Session} {memory : Memory String}
    (recalls : Recalls session memory) (taken : step session .connected = some next) :
    Recalls next memory.settle := by
  have ordered := recalls.ordered.step taken
  obtain ⟨due, same⟩ := Option.ite_none_right_eq_some.mp taken
  rw [subscribeLazy_eq] at same
  cases same
  have online := recalls.ordered.up due
  have rising := recalls.rising due
  have lazy (topic : String) :
      topic ∈ memory.kept ↔ topic ∈ topics session.client.lazySubscriptionList := by
    simpa [rising] using recalls.kept topic
  refine ⟨ordered, by simp, by simp, ?_, ?_, ?_, ?_⟩
  · simp [Memory.settle, linkOf, online]
  · intro topic
    simp [Memory.settle, lazy topic, topics]
  · intro contra
    cases contra
  · intro _ topic
    have settled : memory.settle.link = .up := rfl
    simp only [Session.served, online, ↓reduceIte]
    rw [mem_serve_subscribes, recalls.broker online topic, Memory.serves_rising rising,
      Memory.serves_up settled, or_comm, ← lazy topic]
    rfl

theorem Recalls.fall {session next : Session} {memory : Memory String}
    (recalls : Recalls session memory) (taken : step session .linkDown = some next) :
    Recalls next memory.fall := by
  have ordered := recalls.ordered.step taken
  obtain ⟨_, same⟩ := Option.ite_none_right_eq_some.mp taken
  cases same
  refine ⟨ordered, by simp, by simp, rfl, ?_, ?_, by simp⟩
  · intro topic
    by_cases rising : memory.link = .rising
    · simp [Memory.fall, rising, recalls.kept topic, recalls.fresh rising topic]
    · simp [Memory.fall, rising, recalls.kept topic]
  · intro contra
    cases contra

/-- The callback only moves the topics from one list to the other. -/
theorem Recalls.lost {session next : Session} {memory : Memory String}
    (recalls : Recalls session memory) (taken : step session .connectionLost = some next) :
    Recalls next memory := by
  have ordered := recalls.ordered.step taken
  obtain ⟨due, same⟩ := Option.ite_none_right_eq_some.mp taken
  cases same
  have offline : session.online = false := by
    by_contra online
    exact recalls.settled (by simpa using online) due
  have down := recalls.down offline
  refine ⟨ordered, by simp, fun _ _ => rfl, ?_, ?_, ?_, by simp [offline]⟩
  · simp [down, linkOf, offline]
  · intro topic
    rw [recalls.kept topic, connectionLost, topics_append, List.mem_append]
    simp [down, topics]
  · intro contra
    cases down.symm.trans contra

theorem Recalls.exec {session next : Session} {memory : Memory String} {connecting : Bool}
    (recalls : Recalls session memory) (taken : step session (.exec connecting) = some next) :
    Recalls next memory ∧ next.client.mqttClient.isSome = true := by
  have ordered := recalls.ordered.step taken
  obtain ⟨_, same⟩ := Option.ite_none_right_eq_some.mp taken
  cases same
  exact ⟨⟨ordered, recalls.settled, recalls.away, recalls.link, recalls.kept, recalls.fresh,
    recalls.broker⟩, rfl⟩

/-- A client that was never made keeps its lists through a `Stop`. -/
theorem Recalls.stop {session next : Session} {memory : Memory String}
    (recalls : Recalls session memory) (taken : step session .stop = some next) :
    Recalls next (if session.client.mqttClient.isSome then .empty else memory) ∧
      next.client.mqttClient.isSome = false := by
  rcases stop_cases taken with ⟨none, rfl⟩ | ⟨made, rfl⟩
  · rw [none]
    exact ⟨recalls, rfl⟩
  · rw [made]
    exact ⟨created_recalls _, rfl⟩

/-! ## Whole runs -/

/-- The client does for its user what the service does. -/
structure Provides (exchange : Exchange) (service : Service) : Prop where
  recalls : Recalls exchange.session service.memory
  made : service.made = exchange.session.client.mqttClient.isSome
  slots : service.slots = exchange.slots
  calls : service.calls = exchange.calls
  sent : service.sent = exchange.sent

theorem created_provides (config : Config) : Provides (.created config) .created where
  recalls := created_recalls config
  made := rfl
  slots := rfl
  calls := rfl
  sent := rfl

/-- No action but `Exec` and `Stop` makes or drops the library's client. -/
theorem step_made {session next : Session} {action : Action}
    (taken : step session action = some next) :
    next.client.mqttClient = session.client.mqttClient ∨ action = .stop ∨
      ∃ connecting, action = .exec connecting := by
  cases action with
  | exec connecting => exact .inr (.inr ⟨connecting, rfl⟩)
  | stop => exact .inr (.inl rfl)
  | subscribe topic qos =>
    cases taken
    left
    rcases subscribe_cases session.online topic qos session.client with
      ⟨_, ⟨_, same⟩ | ⟨_, same⟩⟩ | ⟨_, ⟨_, same⟩ | ⟨_, same⟩⟩ <;> rw [same]
  | connected =>
    obtain ⟨_, same⟩ := Option.ite_none_right_eq_some.mp taken
    rw [subscribeLazy_eq] at same
    cases same
    exact .inl rfl
  | _ =>
    obtain ⟨_, same⟩ := Option.ite_none_right_eq_some.mp taken
    cases same
    exact .inl rfl

theorem Provides.session {exchange : Exchange} {service : Service} {session : Session}
    {action : Action} (provides : Provides exchange service)
    (taken : step exchange.session action = some session) :
    Provides { exchange with
      session := session
      slots := if action = .stop then [] else exchange.slots } (service.act (.session action)) := by
  have recalls := provides.recalls
  have onward {memory : Memory String} (still : Recalls session memory)
      (kept : session.client.mqttClient = exchange.session.client.mqttClient) :
      Provides { exchange with session := session } { service with memory := memory } :=
    ⟨still, kept ▸ provides.made, provides.slots, provides.calls, provides.sent⟩
  have kept := step_made taken
  cases action with
  | exec connecting =>
    obtain ⟨still, present⟩ := recalls.exec taken
    exact ⟨still, present.symm, provides.slots, provides.calls, provides.sent⟩
  | stop =>
    obtain ⟨still, absent⟩ := recalls.stop taken
    rw [← provides.made] at still
    exact ⟨still, absent.symm, rfl, provides.calls, provides.sent⟩
  | subscribe topic qos => exact onward (recalls.subscribe taken) (by simpa using kept)
  | linkUp => exact onward (recalls.rise taken) (by simpa using kept)
  | connected => exact onward (recalls.settle taken) (by simpa using kept)
  | linkDown => exact onward (recalls.fall taken) (by simpa using kept)
  | connectionLost => exact onward (recalls.lost taken) (by simpa using kept)

theorem Provides.step {exchange next : Exchange} {service : Service} {action : Exchange.Action}
    (provides : Provides exchange service) (taken : exchange.step action = some next) :
    Provides next (service.act action) := by
  cases action with
  | session action =>
    obtain ⟨session, stepped, rfl⟩ := Option.map_eq_some_iff.mp taken
    exact provides.session stepped
  | connect slot =>
    cases taken
    refine ⟨provides.recalls, provides.made, ?_, provides.calls, provides.sent⟩
    simp [Service.act, provides.slots]
  | publish packet =>
    cases taken
    refine ⟨provides.recalls, provides.made, provides.slots, provides.calls, ?_⟩
    have live := provides.recalls.live_iff
    by_cases down : service.memory.link = .down
    · simp [Service.act, MqttClient.publish, provides.sent, down, live]
    · simp [Service.act, MqttClient.publish, provides.sent, down, live]
  | offered topic payload =>
    cases taken
    refine ⟨provides.recalls, provides.made, provides.slots, ?_, provides.sent⟩
    have served : (exchange.session.online = true ∧ topic ∈ exchange.session.broker) ↔
        service.memory.serves topic = true := by
      cases online : exchange.session.online with
      | false => simp [Memory.serves_down (provides.recalls.down online)]
      | true => simpa using provides.recalls.broker online topic
    simp only [Service.act, provides.calls, provides.slots, messageArrived_eq, served]

/-- In every run the client is a service with a memory of topics: the broker serves it the
topics that memory serves, and no others; its slots are called with every message offered on
one of these, byte for byte, and with nothing else; and a packet is handed on while the link
is up. -/
theorem client_is_service {config : Config} {actions : List Exchange.Action} {exchange : Exchange}
    (run : Run (Takes Exchange.step) (.created config) actions exchange) :
    Provides exchange (actions.foldl Service.act .created) := by
  induction run with
  | start => exact created_provides config
  | step _ taken ih =>
    rw [List.foldl_append]
    exact ih.step taken

/-- A topic asked for, a message on it and one on another. -/
theorem client_is_service_message :
    ∃ exchange, Run (Takes Exchange.step) (.created ⟨"runner", "tcp://127.0.0.1:1883"⟩)
        [.session (.exec true), .connect 7, .session (.subscribe "text_message" .shouldbe),
          .session .linkUp, .session .connected, .offered "text_message" [1, 2],
          .offered "vehicle" [3]] exchange ∧
      exchange.calls = [⟨7, "text_message", [1, 2]⟩] := by
  have run : Run (Takes Exchange.step) (.created ⟨"runner", "tcp://127.0.0.1:1883"⟩)
      [.session (.exec true), .connect 7, .session (.subscribe "text_message" .shouldbe),
        .session .linkUp, .session .connected, .offered "text_message" [1, 2],
        .offered "vehicle" [3]] _ := execute_run rfl
  exact ⟨_, run, (client_is_service run).calls.symm.trans (by decide)⟩

/-! ## Topics asked for outside a rising link -/

theorem Service.kept_act (service : Service) {action : Exchange.Action}
    (going : action ≠ .session .stop) : service.memory.kept ⊆ (service.act action).memory.kept := by
  cases action with
  | session action =>
    cases action with
    | stop => exact absurd rfl going
    | exec connecting => exact subset_rfl
    | connectionLost => exact subset_rfl
    | subscribe topic qos => exact Memory.kept_change _ (.ask topic)
    | linkUp => exact Memory.kept_change _ .rise
    | connected => exact Memory.kept_change _ .settle
    | linkDown => exact Memory.kept_change _ .fall
  | _ => exact subset_rfl

theorem Service.kept_acts (service : Service) {actions : List Exchange.Action}
    (going : .session .stop ∉ actions) :
    service.memory.kept ⊆ (actions.foldl Service.act service).memory.kept := by
  induction actions generalizing service with
  | nil => exact subset_rfl
  | cons action actions ih =>
    rw [List.mem_cons, not_or] at going
    exact (service.kept_act (Ne.symm going.1)).trans (ih _ going.2)

/-- A topic asked for at any moment but between a link-up and its connected callback is, up to
the next `Stop`, held by the broker whenever the link is up and that callback has run, however
often the link was lost in between; and what is offered on it then reaches every slot. -/
theorem kept_topics_delivered {config : Config} {earlier later : List Exchange.Action}
    {asked exchange : Exchange} {topic : String} {qos : QoS}
    (before : Run (Takes Exchange.step) (.created config) earlier asked)
    (settled : asked.session.pending ≠ some .connected)
    (run : Run (Takes Exchange.step) asked (.session (.subscribe topic qos) :: later) exchange)
    (going : .session .stop ∉ later) (online : exchange.session.online = true)
    (ran : exchange.session.pending ≠ some .connected) (payload : List Byte) :
    topic ∈ exchange.session.broker ∧
      exchange.step (.offered topic payload) = some { exchange with
        calls := exchange.calls ++ exchange.slots.map fun slot => ⟨slot, topic, payload⟩ } := by
  have whole := client_is_service (before.trans run)
  have first := client_is_service before
  rw [List.foldl_append, List.foldl_cons] at whole
  have kept : topic ∈ ((earlier.foldl Service.act .created).act
      (.session (.subscribe topic qos))).memory.kept := by
    have away := first.recalls.not_rising settled
    have asks : ((earlier.foldl Service.act .created).act
        (.session (.subscribe topic qos))).memory =
        (earlier.foldl Service.act .created).memory.ask topic := rfl
    rw [asks, Memory.ask_kept away]
    exact Finset.mem_insert_self _ _
  have still := Service.kept_acts _ going kept
  have held : topic ∈ exchange.session.broker := by
    rw [whole.recalls.broker online topic, Memory.serves_up (whole.recalls.up online ran)]
    exact .inl still
  refine ⟨held, ?_⟩
  simp [Exchange.step, online, held, messageArrived_eq]

/-- Asked for before the first link, and offered in the second. -/
theorem kept_topics_delivered_relinked :
    ∃ asked exchange, Run (Takes Exchange.step) (.created ⟨"runner", "tcp://127.0.0.1:1883"⟩)
        [.session (.exec true), .connect 7] asked ∧
      Run (Takes Exchange.step) asked [.session (.subscribe "text_message" .shouldbe),
        .session .linkUp, .session .connected, .session .linkDown, .session .connectionLost,
        .session .linkUp, .session .connected] exchange ∧
      "text_message" ∈ exchange.session.broker := by
  let config : Config := ⟨"runner", "tcp://127.0.0.1:1883"⟩
  let asked : Exchange :=
    ⟨⟨⟨config, some config, [], []⟩, false, none, ∅, ∅⟩, [7], [], []⟩
  have before : Run (Takes Exchange.step) (.created config)
      [.session (.exec true), .connect 7] asked := execute_run rfl
  have run : Run (Takes Exchange.step) asked [.session (.subscribe "text_message" .shouldbe),
      .session .linkUp, .session .connected, .session .linkDown, .session .connectionLost,
      .session .linkUp, .session .connected] _ := execute_run rfl
  exact ⟨asked, _, before, run,
    (kept_topics_delivered before (by decide) run (by decide) rfl (by decide) [1]).1⟩

end VehicleRunner.Bundle.MqttClient
