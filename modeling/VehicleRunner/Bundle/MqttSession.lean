import VehicleRunner.Bundle.MqttClient

/-! The client against its broker: the link comes and goes under it, and the callbacks
that tell it so run some time later. Sessions are clean, so nothing the broker holds
outlives a link. -/

namespace VehicleRunner.Bundle.MqttClient

open VehicleRunner.Foundation

inductive Callback where
  | connected | connectionLost
  deriving DecidableEq

/-- The client, the link, the callback that has yet to run for it, and the topics the
broker holds. `requested` records the topics passed to `subscribe` and not dropped by
a `Stop` since; the code does not see it. -/
structure Session where
  client : State
  online : Bool
  pending : Option Callback
  broker : Finset String
  requested : Finset String
  deriving DecidableEq

inductive Action where
  | exec (connecting : Bool)
  | subscribe (topic : String) (qos : QoS)
  | linkUp
  | connected
  | linkDown
  | connectionLost
  | stop
  deriving DecidableEq

def created (config : Config) : Session where
  client := { config := config }
  online := false
  pending := none
  broker := ∅
  requested := ∅

def serve (broker : Finset String) : Request → Finset String
  | .subscribe node => insert node.topic broker
  | .unsubscribe topic => broker.erase topic

/-- A request takes effect at the broker while the link is up. -/
def Session.served (session : Session) (requests : List Request) : Finset String :=
  if session.online then requests.foldl serve session.broker else session.broker

def step (session : Session) : Action → Option Session
  | .exec connecting =>
    if session.client.mqttClient = none then
      some { session with client := (exec connecting session.client).2 }
    else none
  | .subscribe topic qos =>
    let result := subscribe session.online topic qos session.client
    some { session with
      client := result.1
      broker := session.served result.2
      requested := insert topic session.requested }
  | .linkUp =>
    if session.client.mqttClient.isSome ∧ session.online = false ∧ session.pending = none then
      some { session with online := true, pending := some .connected, broker := ∅ }
    else none
  | .connected =>
    if session.pending = some .connected then
      let result := subscribeLazy session.client
      some { session with
        client := result.1
        broker := session.served result.2
        pending := none }
    else none
  | .linkDown =>
    -- A link lost before its connected callback ran never gets to run it.
    if session.online = true then
      some { session with online := false, pending := some .connectionLost }
    else none
  | .connectionLost =>
    if session.pending = some .connectionLost then
      some { session with client := connectionLost session.client, pending := none }
    else none
  | .stop =>
    let client := (stop session.client).1
    if session.client.mqttClient = none then some { session with client := client }
    else some { client := client, online := false, pending := none, broker := ∅, requested := ∅ }

/-- After its connected callback the broker holds every topic ever asked for. -/
def Kept (before : Session) (action : Action) (after : Session) : Prop :=
  action = .connected → ∀ topic ∈ before.requested, topic ∈ after.broker

/-- No topic is asked for the first time between a link-up and its connected callback. -/
def Timely (session : Session) : Action → Prop
  | .subscribe topic _ => session.pending = some .connected → topic ∈ session.requested
  | _ => True

instance (session : Session) (action : Action) : Decidable (Timely session action) := by
  cases action <;> unfold Timely <;> infer_instance

theorem mem_serve_subscribes (broker : Finset String) (nodes : List Node) (topic : String) :
    topic ∈ (nodes.map Request.subscribe).foldl serve broker ↔
      topic ∈ broker ∨ topic ∈ topics nodes := by
  induction nodes generalizing broker with
  | nil => simp [topics]
  | cons node nodes ih =>
    rw [List.map_cons, List.foldl_cons, ih]
    simp [serve, topics, or_assoc, or_left_comm]

/-! ## What every session keeps -/

/-- The callbacks follow the link, and the lists hold only what was asked for. -/
structure Ordered (session : Session) : Prop where
  live : session.online = true → session.client.mqttClient.isSome = true
  up : session.pending = some .connected → session.online = true
  known : ∀ topic, topic ∈ topics session.client.subscribedTopicList ∨
    topic ∈ topics session.client.lazySubscriptionList → topic ∈ session.requested

theorem created_ordered (config : Config) : Ordered (created config) where
  live := nofun
  up := nofun
  known := by
    rintro topic (held | waiting)
    · cases held
    · cases waiting

theorem Ordered.subscribe {session : Session} (ordered : Ordered session) (topic : String)
    (qos : QoS) :
    Ordered { session with
      client := (MqttClient.subscribe session.online topic qos session.client).1
      broker := session.served (MqttClient.subscribe session.online topic qos session.client).2
      requested := insert topic session.requested } := by
  have old (other : String) (listed : other ∈ topics session.client.subscribedTopicList ∨
      other ∈ topics session.client.lazySubscriptionList) : other ∈ insert topic session.requested :=
    Finset.mem_insert_of_mem (ordered.known other listed)
  have new : topic ∈ insert topic session.requested := Finset.mem_insert_self _ _
  rcases subscribe_cases session.online topic qos session.client with
    ⟨_, ⟨_, same⟩ | ⟨_, same⟩⟩ | ⟨_, ⟨_, same⟩ | ⟨_, same⟩⟩
  · rw [same]
    exact ⟨ordered.live, ordered.up, old⟩
  · rw [same]
    refine ⟨ordered.live, ordered.up, ?_⟩
    rintro other (held | waiting)
    · rcases mem_topics_added.mp held with held | rfl
      · exact old other (.inl held)
      · exact new
    · exact old other (.inr waiting)
  · rw [same]
    exact ⟨ordered.live, ordered.up, old⟩
  · rw [same]
    refine ⟨ordered.live, ordered.up, ?_⟩
    rintro other (held | waiting)
    · exact old other (.inl held)
    · rcases mem_topics_added.mp waiting with waiting | rfl
      · exact old other (.inr waiting)
      · exact new

theorem stop_cases {session next : Session} (taken : step session .stop = some next) :
    (session.client.mqttClient = none ∧ next = session) ∨
    (session.client.mqttClient.isSome = true ∧
      next = ⟨⟨session.client.config, none, [], []⟩, false, none, ∅, ∅⟩) := by
  cases present : session.client.mqttClient with
  | none =>
    simp only [step, stop, present, ↓reduceIte, Option.some.injEq] at taken
    exact .inl ⟨rfl, taken.symm⟩
  | some config =>
    simp only [step, stop, present, reduceCtorEq, ↓reduceIte, Option.some.injEq] at taken
    exact .inr ⟨rfl, taken.symm⟩

theorem Ordered.step {session next : Session} {action : Action} (ordered : Ordered session)
    (taken : MqttClient.step session action = some next) : Ordered next := by
  cases action with
  | exec connecting =>
    obtain ⟨_, same⟩ := Option.ite_none_right_eq_some.mp taken
    cases same
    exact ⟨fun _ => rfl, ordered.up, ordered.known⟩
  | subscribe topic qos =>
    cases taken
    exact ordered.subscribe topic qos
  | linkUp =>
    obtain ⟨⟨present, _, _⟩, same⟩ := Option.ite_none_right_eq_some.mp taken
    cases same
    exact ⟨fun _ => present, fun _ => rfl, ordered.known⟩
  | connected =>
    obtain ⟨_, same⟩ := Option.ite_none_right_eq_some.mp taken
    rw [subscribeLazy_eq] at same
    cases same
    refine ⟨ordered.live, by simp, ?_⟩
    rintro topic (held | waiting)
    · cases held
    · exact ordered.known topic (.inr waiting)
  | linkDown =>
    obtain ⟨_, same⟩ := Option.ite_none_right_eq_some.mp taken
    cases same
    exact ⟨by simp, by simp, ordered.known⟩
  | connectionLost =>
    obtain ⟨_, same⟩ := Option.ite_none_right_eq_some.mp taken
    cases same
    refine ⟨ordered.live, by simp, ?_⟩
    rintro topic (held | waiting)
    · cases held
    · apply ordered.known
      rw [connectionLost, topics_append, List.mem_append] at waiting
      exact waiting.symm
  | stop =>
    rcases stop_cases taken with ⟨_, rfl⟩ | ⟨_, rfl⟩
    · exact ordered
    · refine ⟨by simp, by simp, ?_⟩
      rintro topic (held | waiting)
      · cases held
      · cases waiting

/-! ## Nothing is lost while requests are timely -/

/-- Every topic asked for is in one of the lists; where no connected callback will
find it in the subscribed list, it is in the lazy one. -/
structure Remembered (session : Session) : Prop where
  ordered : Ordered session
  listed : ∀ topic ∈ session.requested, topic ∈ topics session.client.subscribedTopicList ∨
    topic ∈ topics session.client.lazySubscriptionList
  waiting : session.pending = some .connected ∨ (session.online = false ∧ session.pending = none) →
    ∀ topic ∈ session.requested, topic ∈ topics session.client.lazySubscriptionList

theorem created_remembered (config : Config) : Remembered (created config) where
  ordered := created_ordered config
  listed := by intro topic member; cases member
  waiting := by intro _ topic member; cases member

theorem subscribe_grows (isConnected : Bool) (topic : String) (qos : QoS) (state : State) :
    (∀ other ∈ topics state.subscribedTopicList,
      other ∈ topics (subscribe isConnected topic qos state).1.subscribedTopicList) ∧
    (∀ other ∈ topics state.lazySubscriptionList,
      other ∈ topics (subscribe isConnected topic qos state).1.lazySubscriptionList) ∧
    (state.mqttClient.isSome = true ∧ isConnected = true →
      topic ∈ topics (subscribe isConnected topic qos state).1.subscribedTopicList) ∧
    (¬ (state.mqttClient.isSome = true ∧ isConnected = true) →
      topic ∈ topics (subscribe isConnected topic qos state).1.lazySubscriptionList) := by
  rcases subscribe_cases isConnected topic qos state with
    ⟨live, ⟨known, same⟩ | ⟨_, same⟩⟩ | ⟨away, ⟨known, same⟩ | ⟨_, same⟩⟩
  · rw [same]
    exact ⟨fun _ held => held, fun _ held => held, fun _ => known, fun away => absurd live away⟩
  · rw [same]
    refine ⟨?_, fun _ held => held, fun _ => ?_, fun away => absurd live away⟩
    · intro other held
      exact mem_topics_added.mpr (.inl held)
    · exact mem_topics_added.mpr (.inr rfl)
  · rw [same]
    exact ⟨fun _ held => held, fun _ held => held, fun live => absurd live away, fun _ => known⟩
  · rw [same]
    refine ⟨fun _ held => held, ?_, fun live => absurd live away, fun _ => ?_⟩
    · intro other held
      exact mem_topics_added.mpr (.inl held)
    · exact mem_topics_added.mpr (.inr rfl)

theorem Remembered.subscribe {session next : Session} {topic : String} {qos : QoS}
    (remembered : Remembered session) (timely : Timely session (.subscribe topic qos))
    (taken : MqttClient.step session (.subscribe topic qos) = some next) : Remembered next := by
  have ordered := remembered.ordered.step taken
  cases taken
  obtain ⟨held, lazy, live, away⟩ := subscribe_grows session.online topic qos session.client
  refine ⟨ordered, ?_, ?_⟩
  · intro other member
    rcases Finset.mem_insert.mp member with rfl | member
    · by_cases up : session.client.mqttClient.isSome = true ∧ session.online = true
      · exact .inl (live up)
      · exact .inr (away up)
    · exact (remembered.listed other member).imp (held other) (lazy other)
  · intro unsettled other member
    have before := remembered.waiting unsettled
    rcases Finset.mem_insert.mp member with rfl | member
    · rcases unsettled with up | ⟨down, _⟩
      · exact lazy other (before other (timely up))
      · exact away fun up => absurd up.2 (Bool.eq_false_iff.mp down)
    · exact lazy other (before other member)

theorem Remembered.step {session next : Session} {action : Action}
    (remembered : Remembered session) (timely : Timely session action)
    (taken : MqttClient.step session action = some next) : Remembered next := by
  have ordered := remembered.ordered.step taken
  cases action with
  | exec connecting =>
    obtain ⟨_, same⟩ := Option.ite_none_right_eq_some.mp taken
    cases same
    exact ⟨ordered, remembered.listed, remembered.waiting⟩
  | subscribe topic qos => exact remembered.subscribe timely taken
  | linkUp =>
    obtain ⟨⟨_, down, idle⟩, same⟩ := Option.ite_none_right_eq_some.mp taken
    cases same
    exact ⟨ordered, remembered.listed, fun _ => remembered.waiting (.inr ⟨down, idle⟩)⟩
  | connected =>
    obtain ⟨here, same⟩ := Option.ite_none_right_eq_some.mp taken
    rw [subscribeLazy_eq] at same
    cases same
    have lazy := remembered.waiting (.inl here)
    exact ⟨ordered, fun topic member => .inr (lazy topic member), fun _ => lazy⟩
  | linkDown =>
    obtain ⟨_, same⟩ := Option.ite_none_right_eq_some.mp taken
    cases same
    exact ⟨ordered, remembered.listed, by simp⟩
  | connectionLost =>
    obtain ⟨_, same⟩ := Option.ite_none_right_eq_some.mp taken
    cases same
    have moved : ∀ topic ∈ session.requested,
        topic ∈ topics (connectionLost session.client).lazySubscriptionList := by
      intro topic member
      rw [connectionLost, topics_append, List.mem_append]
      exact (remembered.listed topic member).symm
    exact ⟨ordered, fun topic member => .inr (moved topic member), fun _ => moved⟩
  | stop =>
    rcases stop_cases taken with ⟨_, rfl⟩ | ⟨_, rfl⟩
    · exact remembered
    · exact ⟨ordered, by simp, by simp⟩

theorem Remembered.kept {session next : Session} {action : Action}
    (remembered : Remembered session) (taken : MqttClient.step session action = some next) :
    Kept session action next := by
  rintro rfl topic member
  obtain ⟨here, same⟩ := Option.ite_none_right_eq_some.mp taken
  have online := remembered.ordered.up here
  rw [subscribeLazy_eq] at same
  cases same
  simp only [Session.served, online, ↓reduceIte]
  exact (mem_serve_subscribes _ _ _).mpr (.inr (remembered.waiting (.inl here) topic member))

/-! ## An untimely request is lost at the next reconnection -/

/-- A request in the window, its connected callback, and the next reconnection up to
the callback that should restore the request. -/
def losing (topic : String) (qos : QoS) : List Action :=
  [.subscribe topic qos, .connected, .linkDown, .connectionLost, .linkUp]

theorem Ordered.loses {session : Session} {topic : String} {qos : QoS} (ordered : Ordered session)
    (untimely : ¬ Timely session (.subscribe topic qos)) :
    ∃ before after, Run (Takes MqttClient.step) session (losing topic qos) before ∧
      MqttClient.step before .connected = some after ∧
      topic ∈ before.requested ∧ topic ∉ after.broker := by
  obtain ⟨here, new⟩ : session.pending = some .connected ∧ topic ∉ session.requested := by
    simpa [Timely] using untimely
  have online := ordered.up here
  have live := ordered.live online
  have unheld : topic ∉ topics session.client.subscribedTopicList :=
    fun held => new (ordered.known topic (.inl held))
  have unlisted : topic ∉ topics session.client.lazySubscriptionList :=
    fun waiting => new (ordered.known topic (.inr waiting))
  let client : State := { session.client with subscribedTopicList := [] }
  let before : Session :=
    ⟨client, true, some .connected, ∅, insert topic session.requested⟩
  have reached : execute MqttClient.step session (losing topic qos) = some before := by
    rcases subscribe_cases session.online topic qos session.client with
      ⟨_, ⟨held, _⟩ | ⟨_, asked⟩⟩ | ⟨away, _⟩
    · exact absurd held unheld
    · rw [online] at asked
      simp [losing, execute, MqttClient.step, asked, here, online, live, subscribeLazy_eq,
        connectionLost, before, client]
    · exact absurd ⟨live, online⟩ away
  refine ⟨before, ⟨client, true, none, (client.lazySubscriptionList.map Request.subscribe).foldl
    serve ∅, before.requested⟩, execute_run reached, ?_, Finset.mem_insert_self _ _, ?_⟩
  · simp [MqttClient.step, before, subscribeLazy_eq, Session.served, client]
  · rw [mem_serve_subscribes]
    rintro (held | waiting)
    · cases held
    · exact unlisted waiting

/-- While every request is timely, each connected callback leaves the broker with
every topic asked for so far; and one that is not can be lost five actions later. -/
theorem subscriptions_kept (config : Config) (actions : List Action) (session : Session)
    (run : Run (Takes step) (created config) actions session) :
    (Run (Guarded Timely (Takes step)) (created config) actions session →
      EveryStep (Takes step) (created config) actions Kept) ∧
    ∀ topic qos, ¬ Timely session (.subscribe topic qos) →
      ¬ EveryStep (Takes step) (created config) (actions ++ losing topic qos ++ [.connected]) Kept := by
  constructor
  · intro guarded earlier action later before after split reached taken
    subst split
    have remembered : Remembered before := (guarded.guarded_prefix reached).invariant
      (created_remembered config) fun _ _ _ held taken => held.step taken.1 taken.2
    exact remembered.kept taken
  · intro topic qos untimely kept
    have ordered : Ordered session := run.invariant (created_ordered config)
      fun _ _ _ held taken => held.step taken
    obtain ⟨before, after, loses, taken, asked, lost⟩ := ordered.loses untimely
    have held := kept (actions ++ losing topic qos) .connected [] before after rfl
      (run.trans loses) taken rfl topic asked
    exact lost held

/-- A topic asked for offline is there once the link is up. -/
theorem subscriptions_kept_timely :
    ∃ session, Run (Takes step) (created ⟨"runner", "tcp://127.0.0.1:1883"⟩)
        [.exec true, .subscribe "text_message" .shouldbe, .linkUp, .connected] session ∧
      EveryStep (Takes step) (created ⟨"runner", "tcp://127.0.0.1:1883"⟩)
        [.exec true, .subscribe "text_message" .shouldbe, .linkUp, .connected] Kept := by
  have guarded : Run (Guarded Timely (Takes step)) (created ⟨"runner", "tcp://127.0.0.1:1883"⟩)
      [.exec true, .subscribe "text_message" .shouldbe, .linkUp, .connected] _ :=
    execute_guarded rfl
  exact ⟨_, guarded.unguard, (subscriptions_kept _ _ _ guarded.unguard).1 guarded⟩

/-- A topic asked for online, just before the connected callback, is gone after the
next reconnection. -/
theorem subscriptions_lost :
    ¬ ∀ (config : Config) (actions : List Action) (session : Session),
      Run (Takes step) (created config) actions session →
      EveryStep (Takes step) (created config) actions Kept := by
  intro kept
  have run : Run (Takes step) (created ⟨"runner", "tcp://127.0.0.1:1883"⟩) [.exec true, .linkUp] _ :=
    execute_run rfl
  have ordered : Ordered _ := run.invariant (created_ordered _) fun _ _ _ held taken => held.step taken
  obtain ⟨before, after, loses, taken, asked, lost⟩ :=
    ordered.loses (by decide : ¬ Timely _ (.subscribe "text_message" .shouldbe))
  have whole := run.trans loses
  exact lost (kept _ _ _ (.step whole taken) _ .connected [] before after rfl whole taken rfl _ asked)

end VehicleRunner.Bundle.MqttClient
