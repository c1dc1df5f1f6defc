import VehicleRunner.Bundle.MqttSession

/-! The two lists as books of what the broker holds, when every callback runs together
with the change of the link it tells of. -/

namespace VehicleRunner.Bundle.MqttClient

open VehicleRunner.Foundation

/-- What happens between callbacks; the link changes together with its callback. -/
inductive Event where
  | exec (connecting : Bool)
  | subscribe (topic : String) (qos : QoS)
  | linkUp
  | linkDown
  | stop
  deriving DecidableEq

def turn (session : Session) : Event → Option Session
  | .exec connecting => step session (.exec connecting)
  | .subscribe topic qos => step session (.subscribe topic qos)
  | .linkUp => (step session .linkUp).bind fun session => step session .connected
  | .linkDown => (step session .linkDown).bind fun session => step session .connectionLost
  | .stop => step session .stop

/-- The bookkeeping between callbacks, and what it is for: a held topic is not asked
for again, `Stop` gives every held topic back, and a reconnection asks for no more
than was requested. -/
structure Balanced (session : Session) : Prop where
  distinct : (topics (session.client.subscribedTopicList ++
    session.client.lazySubscriptionList)).Nodup
  up : session.online = true → session.client.lazySubscriptionList = [] ∧
    ∀ topic, topic ∈ topics session.client.subscribedTopicList ↔ topic ∈ session.broker
  down : session.online = false → session.client.subscribedTopicList = []
  quiet : session.online = true → ∀ topic ∈ session.broker, ∀ qos,
    (subscribe session.online topic qos session.client).2 = []
  returned : session.online = true → ∀ topic ∈ session.broker,
    Request.unsubscribe topic ∈ (stop session.client).2
  bounded : session.online = false →
    (subscribeLazy session.client).2.length ≤ session.requested.card

/-- The link comes up only while no topic waits in the lazy list. -/
def Unawaited (session : Session) : Event → Prop
  | .linkUp => session.client.lazySubscriptionList = []
  | _ => True

instance (session : Session) (event : Event) : Decidable (Unawaited session event) := by
  cases event <;> unfold Unawaited <;> infer_instance

/-- The link came up: the broker holds the topics that waited, and only those. -/
theorem turn_linkUp {session next : Session} (taken : turn session .linkUp = some next) :
    session.online = false ∧ next = { session with
      client := { session.client with subscribedTopicList := [] }
      online := true
      pending := none
      broker := (session.client.lazySubscriptionList.map Request.subscribe).foldl serve ∅ } := by
  obtain ⟨linked, risen, called⟩ := Option.bind_eq_some_iff.mp taken
  simp only [step, Option.ite_none_right_eq_some, Option.some.injEq] at risen
  obtain ⟨⟨_, down, _⟩, rfl⟩ := risen
  simp only [step, ↓reduceIte, subscribeLazy_eq, Session.served, Option.some.injEq] at called
  exact ⟨down, called.symm⟩

/-- The link went down: every topic that was held waits. -/
theorem turn_linkDown {session next : Session} (taken : turn session .linkDown = some next) :
    session.online = true ∧ next = { session with
      client := connectionLost session.client
      online := false
      pending := none } := by
  obtain ⟨parted, fallen, called⟩ := Option.bind_eq_some_iff.mp taken
  simp only [step, Option.ite_none_right_eq_some, Option.some.injEq] at fallen
  obtain ⟨up, rfl⟩ := fallen
  simp only [step, ↓reduceIte, Option.some.injEq] at called
  exact ⟨up, called.symm⟩

/-- The bookkeeping itself, with what it needs to be kept. -/
structure Booked (session : Session) : Prop where
  ordered : Ordered session
  settled : session.pending = none
  distinct : (topics (session.client.subscribedTopicList ++
    session.client.lazySubscriptionList)).Nodup
  up : session.online = true → session.client.lazySubscriptionList = [] ∧
    ∀ topic, topic ∈ topics session.client.subscribedTopicList ↔ topic ∈ session.broker
  down : session.online = false → session.client.subscribedTopicList = []

theorem created_booked (config : Config) : Booked (created config) where
  ordered := created_ordered config
  settled := rfl
  distinct := .nil
  up := nofun
  down _ := rfl

theorem Booked.balanced {session : Session} (booked : Booked session) : Balanced session where
  distinct := booked.distinct
  up := booked.up
  down := booked.down
  quiet := by
    intro online topic held qos
    have live := booked.ordered.live online
    rcases subscribe_cases session.online topic qos session.client with
      ⟨_, ⟨_, same⟩ | ⟨unheld, _⟩⟩ | ⟨away, _⟩
    · rw [same]
    · exact absurd (((booked.up online).2 topic).mpr held) unheld
    · exact absurd ⟨live, online⟩ away
  returned := by
    intro online topic held
    obtain ⟨config, present⟩ := Option.isSome_iff_exists.mp (booked.ordered.live online)
    obtain ⟨node, member, rfl⟩ := List.mem_map.mp (((booked.up online).2 topic).mpr held)
    simp only [stop, present]
    exact List.mem_map_of_mem member
  bounded := by
    intro _
    rw [subscribeLazy_eq, List.length_map]
    have lazy : (topics session.client.lazySubscriptionList).Nodup := by
      have distinct := booked.distinct
      rw [topics_append] at distinct
      exact distinct.of_append_right
    calc session.client.lazySubscriptionList.length
        = (topics session.client.lazySubscriptionList).toFinset.card := by
          rw [List.toFinset_card_of_nodup lazy, topics, List.length_map]
      _ ≤ session.requested.card := by
          apply Finset.card_le_card
          intro topic member
          exact booked.ordered.known topic (.inr (List.mem_toFinset.mp member))

theorem distinct_append {nodes : List Node} {topic : String} (distinct : (topics nodes).Nodup)
    (new : topic ∉ topics nodes) (qos : Int) : (topics (nodes ++ [⟨topic, qos⟩])).Nodup := by
  rw [topics_append]
  exact List.concat_eq_append ▸ distinct.concat new

theorem Booked.subscribe {session next : Session} {topic : String} {qos : QoS}
    (booked : Booked session) (taken : step session (.subscribe topic qos) = some next) :
    Booked next := by
  have ordered := booked.ordered.step taken
  have distinct := booked.distinct
  cases taken
  rcases subscribe_cases session.online topic qos session.client with
    ⟨live, ⟨_, same⟩ | ⟨unheld, same⟩⟩ | ⟨away, ⟨_, same⟩ | ⟨unlisted, same⟩⟩
  · simp only [same] at ordered ⊢
    refine ⟨ordered, booked.settled, distinct, ?_, booked.down⟩
    simpa [Session.served] using booked.up
  · simp only [same] at ordered ⊢
    obtain ⟨empty, held⟩ := booked.up live.2
    rw [empty, List.append_nil] at distinct
    refine ⟨ordered, booked.settled, ?_, fun _ => ⟨empty, ?_⟩, fun down => ?_⟩
    · rw [empty, List.append_nil]
      exact distinct_append distinct unheld qos.code
    · intro other
      simp [Session.served, live.2, serve, ← held, topics, or_comm, eq_comm]
    · exact absurd live.2 (Bool.eq_false_iff.mp down)
  · simp only [same] at ordered ⊢
    refine ⟨ordered, booked.settled, distinct, ?_, booked.down⟩
    simpa [Session.served] using booked.up
  · simp only [same] at ordered ⊢
    have down : session.online = false := by
      by_contra online
      have online : session.online = true := by simpa using online
      exact away ⟨booked.ordered.live online, online⟩
    have empty := booked.down down
    rw [empty, List.nil_append] at distinct
    refine ⟨ordered, booked.settled, ?_, fun online => ?_, fun _ => empty⟩
    · rw [empty, List.nil_append]
      exact distinct_append distinct unlisted qos.code
    · exact absurd online (Bool.eq_false_iff.mp down)

theorem Ordered.turn {session next : Session} {event : Event} (ordered : Ordered session)
    (taken : MqttClient.turn session event = some next) : Ordered next := by
  cases event with
  | linkUp =>
    obtain ⟨linked, risen, called⟩ := Option.bind_eq_some_iff.mp taken
    exact (ordered.step risen).step called
  | linkDown =>
    obtain ⟨parted, fallen, called⟩ := Option.bind_eq_some_iff.mp taken
    exact (ordered.step fallen).step called
  | exec connecting =>
    have called : MqttClient.step session (.exec connecting) = some next := taken
    exact ordered.step called
  | subscribe topic qos =>
    have called : MqttClient.step session (.subscribe topic qos) = some next := taken
    exact ordered.step called
  | stop =>
    have called : MqttClient.step session .stop = some next := taken
    exact ordered.step called

theorem Booked.turn {session next : Session} {event : Event} (booked : Booked session)
    (unawaited : Unawaited session event) (taken : MqttClient.turn session event = some next) :
    Booked next := by
  have ordered := booked.ordered.turn taken
  cases event with
  | exec connecting =>
    obtain ⟨_, same⟩ := Option.ite_none_right_eq_some.mp taken
    cases same
    exact ⟨ordered, booked.settled, booked.distinct, booked.up, booked.down⟩
  | subscribe topic qos => exact booked.subscribe taken
  | linkUp =>
    obtain ⟨_, rfl⟩ := turn_linkUp taken
    have empty : session.client.lazySubscriptionList = [] := unawaited
    refine ⟨ordered, rfl, ?_, fun _ => ⟨empty, ?_⟩, by simp⟩
    · simp [empty, topics]
    · simp [empty, topics]
  | linkDown =>
    obtain ⟨online, rfl⟩ := turn_linkDown taken
    obtain ⟨empty, _⟩ := booked.up online
    have distinct := booked.distinct
    refine ⟨ordered, rfl, ?_, by simp, fun _ => rfl⟩
    simpa [connectionLost, empty] using distinct
  | stop =>
    rcases stop_cases taken with ⟨_, rfl⟩ | ⟨_, rfl⟩
    · exact booked
    · exact ⟨ordered, rfl, .nil, by simp, fun _ => rfl⟩

/-- A topic that waits when the link comes up still waits afterwards. -/
theorem unbalanced {session next : Session} {event : Event} (awaited : ¬ Unawaited session event)
    (taken : turn session event = some next) : ¬ Balanced next := by
  cases event with
  | linkUp =>
    obtain ⟨_, rfl⟩ := turn_linkUp taken
    intro balanced
    exact awaited (balanced.up rfl).1
  | _ => exact absurd trivial awaited

/-- The books balance in every state of a run exactly when the link never comes up
while a topic waits. -/
theorem lists_balanced_iff (config : Config) (events : List Event) (session : Session)
    (run : Run (Takes turn) (created config) events session) :
    Throughout (Takes turn) (created config) events Balanced ↔
      Run (Guarded Unawaited (Takes turn)) (created config) events session :=
  run.throughout_iff (created_booked config) (fun _ booked => booked.balanced)
    (fun _ _ _ booked unawaited taken => booked.turn unawaited taken)
    (fun _ _ _ _ awaited taken => unbalanced awaited taken)

/-- Topics asked for online only, and dropped with the link. -/
theorem lists_balanced_online :
    ∃ session, Run (Takes turn) (created ⟨"runner", "tcp://127.0.0.1:1883"⟩)
        [.exec true, .linkUp, .subscribe "text_message" .shouldbe, .linkDown] session ∧
      Throughout (Takes turn) (created ⟨"runner", "tcp://127.0.0.1:1883"⟩)
        [.exec true, .linkUp, .subscribe "text_message" .shouldbe, .linkDown] Balanced := by
  have guarded : Run (Guarded Unawaited (Takes turn)) (created ⟨"runner", "tcp://127.0.0.1:1883"⟩)
      [.exec true, .linkUp, .subscribe "text_message" .shouldbe, .linkDown] _ :=
    execute_guarded rfl
  exact ⟨_, guarded.unguard, (lists_balanced_iff _ _ _ guarded.unguard).mpr guarded⟩

/-- A topic asked for before the link comes up for the first time. -/
theorem lists_unbalanced :
    ¬ ∀ (config : Config) (events : List Event) (session : Session),
      Run (Takes turn) (created config) events session →
      Throughout (Takes turn) (created config) events Balanced := by
  intro balanced
  have run : Run (Takes turn) (created ⟨"runner", "tcp://127.0.0.1:1883"⟩)
      [.exec true, .subscribe "text_message" .shouldbe, .linkUp] _ := execute_run rfl
  have last := balanced _ _ _ run _ [] _ (List.append_nil _).symm run
  exact absurd (last.up rfl).1 (by decide)

end VehicleRunner.Bundle.MqttClient
