import VehicleRunner.Foundation.Guarding
import VehicleRunner.Misc.Errno

/-! `MqttClient_Impl`: two lists of topics, moved into one another as the link to the
broker comes and goes. Whether the library is connected is an argument, and what a
method asks of the broker is part of its result. -/

namespace VehicleRunner.Bundle.MqttClient

open VehicleRunner.Foundation VehicleRunner.Misc

structure Config where
  clientName : String
  brokerUrl : String
  deriving DecidableEq

inductive QoS where
  | dontcare | maybe | shouldbe
  deriving DecidableEq

def QoS.code : QoS → Int
  | .dontcare => 0
  | .maybe => 1
  | .shouldbe => 2

/-- A topic with the code of its quality of service. -/
structure Node where
  topic : String
  qos : Int
  deriving DecidableEq

inductive Request where
  | subscribe (node : Node)
  | unsubscribe (topic : String)
  deriving DecidableEq

structure State where
  config : Config
  /-- The library's client, under the configuration it was made from. -/
  mqttClient : Option Config := none
  subscribedTopicList : List Node := []
  lazySubscriptionList : List Node := []
  deriving DecidableEq

/-- Result code and next state; the argument is whether a connection attempt began. -/
def exec (connecting : Bool) (state : State) : Int × State :=
  (if connecting then 0 else -ECONNREFUSED, { state with mqttClient := some state.config })

def registered (topic : String) (nodes : List Node) : Bool := nodes.any fun it => it.topic = topic

def subscribe (isConnected : Bool) (topic : String) (qos : QoS) (state : State) :
    State × List Request :=
  let node : Node := ⟨topic, qos.code⟩
  if state.mqttClient.isSome && isConnected then
    if registered topic state.subscribedTopicList then (state, [])
    else ({ state with subscribedTopicList := state.subscribedTopicList ++ [node] },
      [.subscribe node])
  else
    if registered topic state.lazySubscriptionList then (state, [])
    else ({ state with lazySubscriptionList := state.lazySubscriptionList ++ [node] }, [])

/-- Every lazy topic is subscribed and moved over; the list cleared afterwards is the
one they were moved to, not the one they came from. -/
def subscribeLazy (state : State) : State × List Request :=
  let moved := state.lazySubscriptionList.foldl
    (fun (moved : State × List Request) it =>
      ({ moved.1 with subscribedTopicList := moved.1.subscribedTopicList ++ [it] },
        moved.2 ++ [.subscribe it]))
    (state, [])
  ({ moved.1 with subscribedTopicList := [] }, moved.2)

def connectionLost (state : State) : State :=
  { state with
    lazySubscriptionList := state.lazySubscriptionList ++ state.subscribedTopicList
    subscribedTopicList := [] }

def stop (state : State) : State × List Request :=
  match state.mqttClient with
  | none => (state, [])
  | some _ =>
    ({ state with mqttClient := none, subscribedTopicList := [], lazySubscriptionList := [] },
      state.subscribedTopicList.map fun it => .unsubscribe it.topic)

/-- The topics of a list. -/
def topics (nodes : List Node) : List String := nodes.map Node.topic

theorem topics_append (first second : List Node) :
    topics (first ++ second) = topics first ++ topics second :=
  List.map_append

theorem mem_topics_added {nodes : List Node} {node : Node} {topic : String} :
    topic ∈ topics (nodes ++ [node]) ↔ topic ∈ topics nodes ∨ topic = node.topic := by
  rw [topics_append, List.mem_append]
  exact or_congr_right List.mem_singleton

theorem registered_iff (topic : String) (nodes : List Node) :
    registered topic nodes = true ↔ topic ∈ topics nodes := by
  simp [registered, topics]

/-- The lazy list survives the loop, so each reconnection subscribes all of it again. -/
theorem subscribeLazy_eq (state : State) :
    subscribeLazy state =
      ({ state with subscribedTopicList := [] }, state.lazySubscriptionList.map .subscribe) := by
  have moves (nodes : List Node) (moved : State × List Request) :
      nodes.foldl (fun (moved : State × List Request) it =>
        ({ moved.1 with subscribedTopicList := moved.1.subscribedTopicList ++ [it] },
          moved.2 ++ [.subscribe it])) moved =
      ({ moved.1 with subscribedTopicList := moved.1.subscribedTopicList ++ nodes },
        moved.2 ++ nodes.map .subscribe) := by
    induction nodes generalizing moved with
    | nil => simp
    | cons node nodes ih => simp [ih]
  rw [subscribeLazy, moves]
  rfl

/-- Everything a call of `subscribe` can come to. -/
theorem subscribe_cases (isConnected : Bool) (topic : String) (qos : QoS) (state : State) :
    ((state.mqttClient.isSome = true ∧ isConnected = true) ∧
      ((topic ∈ topics state.subscribedTopicList ∧
          subscribe isConnected topic qos state = (state, [])) ∨
        (topic ∉ topics state.subscribedTopicList ∧
          subscribe isConnected topic qos state = ({ state with
            subscribedTopicList := state.subscribedTopicList ++ [⟨topic, qos.code⟩] },
            [.subscribe ⟨topic, qos.code⟩])))) ∨
    (¬ (state.mqttClient.isSome = true ∧ isConnected = true) ∧
      ((topic ∈ topics state.lazySubscriptionList ∧
          subscribe isConnected topic qos state = (state, [])) ∨
        (topic ∉ topics state.lazySubscriptionList ∧
          subscribe isConnected topic qos state = ({ state with
            lazySubscriptionList := state.lazySubscriptionList ++ [⟨topic, qos.code⟩] }, [])))) := by
  by_cases live : state.mqttClient.isSome = true ∧ isConnected = true
  · refine .inl ⟨live, ?_⟩
    by_cases known : registered topic state.subscribedTopicList
    · exact .inl ⟨(registered_iff _ _).mp known, by simp [subscribe, live, known]⟩
    · exact .inr ⟨fun member => known ((registered_iff _ _).mpr member),
        by simp [subscribe, live, known]⟩
  · refine .inr ⟨live, ?_⟩
    by_cases known : registered topic state.lazySubscriptionList
    · exact .inl ⟨(registered_iff _ _).mp known, by simp [subscribe, live, known]⟩
    · exact .inr ⟨fun member => known ((registered_iff _ _).mpr member),
        by simp [subscribe, live, known]⟩

end VehicleRunner.Bundle.MqttClient
