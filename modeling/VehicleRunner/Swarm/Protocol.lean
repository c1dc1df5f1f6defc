import VehicleRunner.Plugin.EventRing
import VehicleRunner.Swarm.Delivery

/-! The swarm protocol over vehicles that were all configured from one section: the
ids its configuration runs hand out are the ones its receivers filter on. -/

namespace VehicleRunner.Swarm

open VehicleRunner.Foundation VehicleRunner.Bundle VehicleRunner.Plugin VehicleRunner.App

variable {ι : Type}

/-- Vehicles configured from one section, each for a role of its own. -/
structure Deployment (ι : Type) where
  lexicalCast : String → Option (BitVec 16)
  construct : ι → Nat → Except Exception Unit
  json : ι → Json.Value
  before : ι → AppMain
  after : ι → AppMain
  vehicle : ι → Vehicle
  url : ι → String
  agree : ∀ first second, AgreeOffRoles (json first) (json second)
  few : ∀ vehicle urls, memberUrls (json vehicle) (turnsFor (json vehicle)) 1 = .ok urls →
    urls.length ≤ 245
  roles : ∀ first second, first ≠ second → roleOf (json first) ≠ roleOf (json second)
  ran : ∀ vehicle, pluginSmallSwarm lexicalCast (construct vehicle) (json vehicle) (before vehicle) =
    (.ok (), after vehicle)
  configured : ∀ index, (after index).vehicle? = some (vehicle index)
  own : ∀ vehicle, ownUrl (json vehicle) = .ok (url vehicle)

def Deployment.peers (deployment : Deployment ι) : Peers ι := ⟨deployment.vehicle, deployment.url⟩

theorem Deployment.seated (deployment : Deployment ι) (vehicle : ι) :
    ∃ vehicles role url, Seated (deployment.json vehicle) vehicles role
      ⟨(deployment.vehicle vehicle).publish.vehicleId, url⟩ (deployment.vehicle vehicle).subscribes := by
  obtain ⟨found, vehicles, role, url, present, deployed⟩ :=
    pluginSmallSwarm_deployed (deployment.ran vehicle)
  obtain rfl : found = deployment.vehicle vehicle :=
    Option.some.inj (present.symm.trans (deployment.configured vehicle))
  exact ⟨vehicles, role, url, deployed.seated⟩

/-- Every id names one vehicle of the swarm and one subscription of each. -/
theorem Deployment.identified (deployment : Deployment ι) : deployment.peers.Identified where
  publishers := by
    intro first second same
    obtain ⟨vehicles, role, url, seated⟩ := deployment.seated first
    obtain ⟨others, otherRole, otherUrl, otherSeated⟩ := deployment.seated second
    obtain rfl : vehicles = others :=
      (deployment.agree first second).fleet seated.loaded otherSeated.loaded
    have seats : role.seat = otherRole.seat :=
      subscription_unique (fleet_ids seated.loaded (deployment.few first)) seated.own otherSeated.own same
    by_contra different
    apply Role.seat_ne seated.numbered otherSeated.numbered _ seats
    rintro rfl
    exact deployment.roles first second different
      (seated.selected.trans otherSeated.selected.symm)
  subscriptions := by
    intro vehicle
    obtain ⟨vehicles, role, url, seated⟩ := deployment.seated vehicle
    have distinct := fleet_ids seated.loaded (deployment.few vehicle)
    change ((deployment.vehicle vehicle).subscribes.map ZmqSubscribe.Config.vehicleId).Nodup
    rw [seated.others]
    exact distinct.sublist ((List.eraseIdx_sublist _ _).map _)

variable [DecidableEq ι]

/-- In every interleaving of publishing, arrival, receiving, slots and loops, the
payloads a vehicle pops under another's id are a subsequence, in order, of the
payloads that vehicle published. -/
theorem payloads_delivered_in_order (deployment : Deployment ι) (nowMs : ι → Int)
    (message : ι → Nat → Storage ZMQ.sizeofMessage) (actions : List (Action ι)) (state : State ι)
    (run : Run (Takes deployment.peers.step) (initial nowMs message) actions state)
    (sender receiver : ι) :
    (((state receiver).popped.filter fun event =>
        event.metadata.vehicleId = (deployment.vehicle sender).publish.vehicleId).map
      SmallSwarm.EventText.payload).Sublist (state sender).published :=
  ((initial_sound deployment.peers nowMs message).run deployment.identified run).delivered
    sender receiver

/-- While its vehicles only hear each other, no receiver of the swarm leaves its
message object and no loop pops an empty ring. -/
theorem swarm_defined (deployment : Deployment ι) (nowMs : ι → Int)
    (message : ι → Nat → Storage ZMQ.sizeofMessage) (actions : List (Action ι)) (state : State ι)
    (run : Run (Takes deployment.peers.step) (initial nowMs message) actions state) (vehicle : ι) :
    (∀ subscription, ((state vehicle).receivers subscription).fault = none) ∧
      (state vehicle).swarm.point ≠ .undefined := by
  have sound := (initial_sound deployment.peers nowMs message).run deployment.identified run
  obtain ⟨own, loops⟩ := Peers.run_swarm run vehicle
  exact ⟨fun subscription => ((sound.node vehicle).receivers subscription).faultless,
    SmallSwarm.run_defined loops⟩

/-- The leader of the sample section, and its second member. -/
def sampleRole (leads : Bool) : List (String × Json.Value) :=
  if leads then [("Leader", .bool true)] else [("Member No", .integer 2)]

def sampleRun (leads : Bool) : Except Exception Unit × AppMain :=
  pluginSmallSwarm samplePort (fun _ => .ok ()) (sampleSection (sampleRole leads)) {}

def sampleDeployment : Deployment Bool where
  lexicalCast := samplePort
  construct _ _ := .ok ()
  json leads := sampleSection (sampleRole leads)
  before _ := {}
  after leads := (sampleRun leads).2
  vehicle leads := (sampleRun leads).2.vehicle?.get (by cases leads <;> rfl)
  url leads := if leads then "tcp://172.24.200.10:9872" else "tcp://172.24.200.112:9872"
  agree first second :=
    agreeOffRoles_append (by cases first <;> decide) (by cases second <;> decide)
  few leads urls loaded := by cases leads <;> cases loaded <;> decide
  roles first second different := by
    cases first <;> cases second <;> first | exact absurd rfl different | exact nofun
  ran leads := by cases leads <;> rfl
  configured leads := (Option.some_get _).symm
  own leads := by cases leads <;> rfl

/-- The leader publishes, and the member pops its payload. -/
def sampleActions : List (Action Bool) :=
  [.publish true (.ofStorage (.zeros 32)), .arrive true false 0 0, .iterate false 0, .slot false 0,
    .loop false .test, .loop false .popFront]

theorem payloads_delivered_sample :
    ∃ state, Run (Takes sampleDeployment.peers.step) (initial (fun _ => 0) fun _ _ => .zeros 35)
        sampleActions state ∧
      (state false).popped.map (·.metadata.vehicleId) = [ZMQ.vehicleIdLeader] ∧
      (((state false).popped.filter fun event =>
          event.metadata.vehicleId = (sampleDeployment.vehicle true).publish.vehicleId).map
        SmallSwarm.EventText.payload).Sublist (state true).published := by
  have executed : (execute sampleDeployment.peers.step (initial (fun _ => 0) fun _ _ => .zeros 35)
      sampleActions).map (fun state => (state false).popped.map (·.metadata.vehicleId)) =
        some [ZMQ.vehicleIdLeader] := by
    decide +kernel
  obtain ⟨state, done, popped⟩ := Option.map_eq_some_iff.mp executed
  have run := execute_run done
  exact ⟨state, run, popped,
    payloads_delivered_in_order sampleDeployment _ _ sampleActions state run true false⟩

end VehicleRunner.Swarm
