import VehicleRunner.Plugin.Broadcast
import VehicleRunner.App.Execution
import VehicleRunner.Bundle.MavDiscovery
import VehicleRunner.Swarm.Provenance

/-! The swarm with each vehicle's own process around it: the loop reads the telemetry of the
process's `MavVehicle_Impl`, to which the autopilot library reports, and the main loop of
`AppMain::Exec` publishes the features through it. -/

namespace VehicleRunner.Swarm

open VehicleRunner.Foundation VehicleRunner.Misc VehicleRunner.Bundle VehicleRunner.Plugin VehicleRunner.App

variable {ι : Type}

/-- `handed` records what came of each `PublishMessage`; the code does not see it. -/
structure Processes (ι : Type) where
  swarm : State ι
  mav : ι → MavVehicle.Vehicle
  handed : ι → List (Int × Option MavVehicle.V2Extension)

/-- What the getters of a vehicle find. -/
def reported (vehicle : MavVehicle.Vehicle) : Option MavVehicle.Telemetry :=
  vehicle.state.telemetry.map vehicle.world.telemetry

/-- The swarm moves; the library notifies a vehicle of something, or has new values to
report to it; or its main loop goes around once. -/
inductive Event (ι : Type) where
  | swarm (action : Action ι)
  | library (vehicle : ι) (event : MavVehicle.Event)
  | report (vehicle : ι) (telemetry : MavVehicle.SystemRef → MavVehicle.Telemetry)
  | feature (vehicle : ι) (accepted : Bool) (stream : Storage MavVehicle.extensionPayloadLength)

/-- Only the loop calls `Publish`, and its getters see the telemetry of its own process. -/
def Processes.Allows (processes : Processes ι) : Action ι → Prop
  | .publish _ _ => False
  | .loop vehicle call => call.sees (reported (processes.mav vehicle))
  | _ => True

instance (processes : Processes ι) : (action : Action ι) → Decidable (processes.Allows action)
  | .publish _ _ => inferInstanceAs (Decidable False)
  | .arrive _ _ _ _ => inferInstanceAs (Decidable True)
  | .iterate _ _ => inferInstanceAs (Decidable True)
  | .slot _ _ => inferInstanceAs (Decidable True)
  | .loop vehicle call => inferInstanceAs (Decidable (call.sees (reported (processes.mav vehicle))))

/-- A crash ends the process, and with it the run. -/
def Processes.step [DecidableEq ι] (peers : Peers ι) (processes : Processes ι) :
    Event ι → Option (Processes ι)
  | .swarm action =>
    if processes.Allows action then
      (peers.step processes.swarm action).map fun swarm => { processes with swarm := swarm }
    else none
  | .library vehicle event =>
    match MavVehicle.handle (processes.mav vehicle) event with
    | .ok next => some { processes with mav := Function.update processes.mav vehicle next }
    | .error _ => none
  | .report vehicle telemetry =>
    let mav := processes.mav vehicle
    some { processes with
      mav := Function.update processes.mav vehicle
        { mav with world := { mav.world with telemetry := telemetry } } }
  | .feature vehicle accepted stream =>
    let published := MavVehicle.publishMessage (processes.mav vehicle).state.passthru accepted
      MAV.compIdGcs MAV.typeFeature stream
    some { processes with
      handed := Function.update processes.handed vehicle (processes.handed vehicle ++ [published]) }

/-- After the startup of every process; `opened` is whether its connection did. -/
def Processes.initial (config : ι → MavVehicle.Config) (opened : ι → Bool) (world : ι → MavVehicle.World)
    (swarm : State ι) : Processes ι where
  swarm := swarm
  mav vehicle :=
    { world := world vehicle
      state := (MavVehicle.exec (opened vehicle) { config := config vehicle }).2
      delivered := [] }
  handed _ := []

/-! ## No autopilot is ever adopted -/

theorem reported_unplugged {vehicle : MavVehicle.Vehicle} (unplugged : MavVehicle.Unplugged vehicle) :
    reported vehicle = none := by
  rw [reported, unplugged.telemetry, Option.map_none]

/-- What holds of every process by itself. -/
structure Processes.Bereft (processes : Processes ι) : Prop where
  unplugged : ∀ vehicle, MavVehicle.Unplugged (processes.mav vehicle)
  refused : ∀ vehicle, ∀ outcome ∈ processes.handed vehicle, outcome = (-EUNATCH, none)

theorem initial_bereft (config : ι → MavVehicle.Config) (opened : ι → Bool)
    (world : ι → MavVehicle.World) (swarm : State ι) :
    (Processes.initial config opened world swarm).Bereft where
  unplugged vehicle := MavVehicle.exec_unplugged (config vehicle) (opened vehicle) (world vehicle)
  refused := by simp [Processes.initial]

variable [DecidableEq ι] {peers : Peers ι} {processes next : Processes ι}

/-- One vehicle's object changes. -/
theorem Processes.Bereft.update (bereft : processes.Bereft) {vehicle : ι} {changed : MavVehicle.Vehicle}
    (still : MavVehicle.Unplugged changed) :
    { processes with mav := Function.update processes.mav vehicle changed }.Bereft where
  unplugged := (Function.forall_update_iff processes.mav fun _ mav => MavVehicle.Unplugged mav).mpr
    ⟨still, fun other _ => bereft.unplugged other⟩
  refused := bereft.refused

theorem Processes.Bereft.step (bereft : processes.Bereft) {event : Event ι}
    (taken : processes.step peers event = some next) : next.Bereft := by
  cases event with
  | swarm action =>
    obtain ⟨_, moved⟩ := Option.ite_none_right_eq_some.mp taken
    obtain ⟨swarm, _, rfl⟩ := Option.map_eq_some_iff.mp moved
    exact ⟨bereft.unplugged, bereft.refused⟩
  | library vehicle event =>
    cases handled : MavVehicle.handle (processes.mav vehicle) event with
    | error crash => simp [Processes.step, handled] at taken
    | ok changed =>
      simp only [Processes.step, handled, Option.some.injEq] at taken
      subst taken
      exact bereft.update ((bereft.unplugged vehicle).next handled)
  | report vehicle telemetry =>
    cases taken
    obtain ⟨⟨executed, unheld, unregistered, silent⟩, unset, unserved⟩ := bereft.unplugged vehicle
    exact bereft.update ⟨⟨executed, unheld, unregistered, silent⟩, unset, unserved⟩
  | feature vehicle accepted stream =>
    cases taken
    refine ⟨bereft.unplugged, ?_⟩
    apply (Function.forall_update_iff processes.handed fun _ handed =>
      ∀ outcome ∈ handed, outcome = (-EUNATCH, none)).mpr
    refine ⟨?_, fun other _ => bereft.refused other⟩
    intro outcome member
    rcases List.mem_append.mp member with old | new
    · exact bereft.refused vehicle outcome old
    · rw [List.mem_singleton.mp new, (bereft.unplugged vehicle).passthru]
      rfl

/-- The swarm inside goes through a run of its own, in which no getter finds a telemetry. -/
theorem run_swarm_unreported {start final : Processes ι} {events : List (Event ι)}
    (bereft : start.Bereft) (run : Run (Takes (Processes.step peers)) start events final) :
    final.Bereft ∧ ∃ actions, Run (Guarded OwnBroadcast (Takes peers.step)) start.swarm actions final.swarm ∧
      ∀ vehicle, ∀ call ∈ callsOf vehicle actions, call.sees none := by
  induction run with
  | start => exact ⟨bereft, [], .start, by simp [callsOf]⟩
  | @step _ before event after _ taken ih =>
    obtain ⟨kept, actions, run, unreported⟩ := ih
    refine ⟨kept.step taken, ?_⟩
    cases event with
    | swarm action =>
      obtain ⟨allowed, moved⟩ := Option.ite_none_right_eq_some.mp taken
      obtain ⟨swarm, stepped, rfl⟩ := Option.map_eq_some_iff.mp moved
      have own : OwnBroadcast before.swarm action := by
        cases action <;> first | exact allowed | trivial
      refine ⟨actions ++ [action], .step run ⟨own, stepped⟩, ?_⟩
      intro vehicle call member
      simp only [callsOf, List.filterMap_append, List.mem_append] at member
      rcases member with old | new
      · exact unreported vehicle call old
      · cases action with
        | loop actor made =>
          by_cases same : actor = vehicle
          · subst same
            obtain rfl : call = made := by simpa using new
            have sees : call.sees (reported (before.mav actor)) := allowed
            rwa [reported_unplugged (kept.unplugged actor)] at sees
          · simp [same] at new
        | _ => simp at new
    | library vehicle event =>
      cases handled : MavVehicle.handle (before.mav vehicle) event with
      | error crash => simp [Takes, Processes.step, handled] at taken
      | ok changed =>
        simp only [Takes, Processes.step, handled, Option.some.injEq] at taken
        subst taken
        exact ⟨actions, run, unreported⟩
    | report vehicle telemetry =>
      cases taken
      exact ⟨actions, run, unreported⟩
    | feature vehicle accepted stream =>
      cases taken
      exact ⟨actions, run, unreported⟩

/-- The payload of a loop that has read nothing. -/
def unread : ZMQ.Payload := SmallSwarm.payloadOf {} {}

theorem positionFrom_unreported {calls : List SmallSwarm.Action} {llh : MavVehicle.PositionLlh}
    (unreported : ∀ call ∈ calls, call.sees none) (traced : PositionFrom calls llh) : llh = {} := by
  rcases traced with first | ⟨reading, member, _⟩
  · exact first
  · have sees : some reading = none := unreported _ member
    cases sees

theorem velocityFrom_unreported {calls : List SmallSwarm.Action} {ned : MavVehicle.VelocityNed}
    (unreported : ∀ call ∈ calls, call.sees none) (traced : VelocityFrom calls ned) : ned = {} := by
  rcases traced with first | ⟨reading, member, _⟩
  · exact first
  · have sees : some reading = none := unreported _ member
    cases sees

/-- Whatever the autopilots, the library and the network do, no process ever crashes over a
notification, every broadcast carries zeros, so does every event popped anywhere, and no
feature is ever handed to the library: nothing adopts an autopilot. -/
theorem nothing_reported (deployment : Deployment ι) (config : ι → MavVehicle.Config)
    (opened : ι → Bool) (world : ι → MavVehicle.World) (nowMs : ι → Int)
    (message : ι → Nat → Storage ZMQ.sizeofMessage) (events : List (Event ι)) (processes : Processes ι)
    (run : Run (Takes (Processes.step deployment.peers))
      (Processes.initial config opened world (initial nowMs message)) events processes) (vehicle : ι) :
    (∀ payload ∈ (processes.swarm vehicle).published, payload = unread) ∧
    (∀ event ∈ (processes.swarm vehicle).popped, event.payload = unread) ∧
    (∀ outcome ∈ processes.handed vehicle, outcome = (-EUNATCH, none)) ∧
    ∀ event, ∃ next, processes.step deployment.peers (.library vehicle event) = some next := by
  obtain ⟨bereft, actions, within, unreported⟩ :=
    run_swarm_unreported (initial_bereft config opened world (initial nowMs message)) run
  have published (sender : ι) (payload : ZMQ.Payload)
      (member : payload ∈ (processes.swarm sender).published) : payload = unread := by
    rw [(published_readings within sender).published, List.mem_map] at member
    obtain ⟨⟨llh, ned⟩, taken, rfl⟩ := member
    obtain ⟨position, velocity⟩ := (readings_from (callsOf sender actions)).taken _ taken
    obtain rfl := positionFrom_unreported (unreported sender) position
    obtain rfl := velocityFrom_unreported (unreported sender) velocity
    rfl
  refine ⟨published vehicle, ?_, bereft.refused vehicle, ?_⟩
  · intro event member
    have authentic := (initial_authentic deployment.peers nowMs message).run deployment.identified
      (initial_sound deployment.peers nowMs message) within.unguard
    obtain ⟨_, payload, ⟨sender, _, sent⟩, rfl⟩ :=
      (authentic vehicle).events event (List.mem_append_left _ member)
    exact published sender payload sent
  · intro event
    obtain ⟨next, handled, _⟩ := (bereft.unplugged vehicle).handles event
    exact ⟨_, by rw [Processes.step, handled]⟩

/-- The leader's autopilot is found and connects, its loop broadcasts, its main loop goes
around, and the member pops the broadcast. -/
def sampleEvents : List (Event Bool) :=
  [.library true (.newSystem (some 1)), .library true (.connectionChanged 1 true (some 2)),
    .feature true true (.zeros 249)] ++
  [.loop true .test, .loop true (.clock 200), .loop true (.getPosition none),
    .loop true (.getVelocity none), .loop true .publish, .arrive true false 0 0, .iterate false 0,
    .slot false 0, .loop false .test, .loop false .popFront].map Event.swarm

def sampleProcesses : Processes Bool :=
  Processes.initial (fun _ => ⟨"udp://:14550", false, false⟩) (fun _ => true)
    (fun _ => ⟨fun _ => true, fun _ => 1, fun _ => sampleReading, []⟩)
    (initial (fun _ => 0) fun _ _ => .zeros 35)

theorem nothing_reported_sample :
    ∃ processes, Run (Takes (Processes.step sampleDeployment.peers)) sampleProcesses sampleEvents processes ∧
      (processes.swarm false).popped.map SmallSwarm.EventText.payload = [unread] ∧
      processes.handed true = [(-EUNATCH, none)] := by
  have executed : (execute (Processes.step sampleDeployment.peers) sampleProcesses sampleEvents).map
      (fun processes => ((processes.swarm false).popped.length, (processes.handed true).length)) =
        some (1, 1) := by
    decide +kernel
  obtain ⟨processes, done, sizes⟩ := Option.map_eq_some_iff.mp executed
  obtain ⟨one, once⟩ := Prod.mk.inj sizes
  have run := execute_run done
  obtain ⟨event, popped⟩ := List.length_eq_one_iff.mp one
  obtain ⟨outcome, handed⟩ := List.length_eq_one_iff.mp once
  obtain ⟨_, member, _, _⟩ := nothing_reported sampleDeployment _ _ _ _ _ sampleEvents processes run false
  obtain ⟨_, _, leader, _⟩ := nothing_reported sampleDeployment _ _ _ _ _ sampleEvents processes run true
  refine ⟨processes, run, ?_, ?_⟩
  · rw [popped, List.map_singleton, member event (by simp [popped])]
  · rw [handed, leader outcome (by simp [handed])]

end VehicleRunner.Swarm
