import VehicleRunner.Foundation.Bulletin
import VehicleRunner.Foundation.Simulation
import VehicleRunner.Swarm.Protocol

/-! The swarm against what it is for: every vehicle keeps a log of its payloads, which every
other one reads forward. Queues, message objects, rings and the network's losses only decide
which entries are skipped. -/

namespace VehicleRunner.Swarm

open VehicleRunner.Foundation VehicleRunner.Bundle VehicleRunner.Plugin VehicleRunner.App

variable {ι : Type}

def publishedBy (state : State ι) (vehicle : ι) : List ZMQ.Payload := (state vehicle).published

def poppedBy (state : State ι) (vehicle : ι) : List SmallSwarm.EventText := (state vehicle).popped

/-- The logs are what was published, and each vehicle has read of another's log what it
took under its id. -/
structure Related (peers : Peers ι) (state : State ι) (bulletin : Bulletin ι ι ZMQ.Payload) : Prop where
  sound : Sound peers state
  log : bulletin.log = publishedBy state
  read : ∀ receiver sender, Earliest (publishedBy state sender)
    (eventsOf (peers.vehicle sender).publish.vehicleId (poppedBy state receiver))
    (bulletin.read receiver sender)

theorem initial_related (peers : Peers ι) (nowMs : ι → Int)
    (message : ι → Nat → Storage ZMQ.sizeofMessage) :
    Related peers (initial nowMs message) .empty where
  sound := initial_sound peers nowMs message
  log := rfl
  read _ _ := .nothing []

/-- What a step does to the payloads published and the events taken. -/
inductive Visible [DecidableEq ι] (state next : State ι) : Prop where
  | publishes (vehicle : ι) (payload : ZMQ.Payload)
      (published : publishedBy next =
        Function.update (publishedBy state) vehicle (publishedBy state vehicle ++ [payload]))
      (popped : poppedBy next = poppedBy state)
  | takes (vehicle : ι) (event : SmallSwarm.EventText) (published : publishedBy next = publishedBy state)
      (popped : poppedBy next =
        Function.update (poppedBy state) vehicle (poppedBy state vehicle ++ [event]))
  | nothing (published : publishedBy next = publishedBy state) (popped : poppedBy next = poppedBy state)

variable [DecidableEq ι] {peers : Peers ι} {state next : State ι}

theorem publishedBy_update (state : State ι) (vehicle : ι) (changed : Node ι) :
    publishedBy (Function.update state vehicle changed) =
      Function.update (publishedBy state) vehicle changed.published :=
  Function.comp_update Node.published state vehicle changed

theorem poppedBy_update (state : State ι) (vehicle : ι) (changed : Node ι) :
    poppedBy (Function.update state vehicle changed) =
      Function.update (poppedBy state) vehicle changed.popped :=
  Function.comp_update Node.popped state vehicle changed

theorem Visible.still {vehicle : ι} {changed : Node ι} (published : changed.published = publishedBy state vehicle)
    (popped : changed.popped = poppedBy state vehicle) :
    Visible state (Function.update state vehicle changed) := by
  apply Visible.nothing
  · rw [publishedBy_update, published, Function.update_eq_self]
  · rw [poppedBy_update, popped, Function.update_eq_self]

theorem Visible.publish {vehicle : ι} {changed : Node ι} {payload : ZMQ.Payload}
    (published : changed.published = publishedBy state vehicle ++ [payload])
    (popped : changed.popped = poppedBy state vehicle) :
    Visible state (Function.update state vehicle changed) := by
  apply Visible.publishes vehicle payload
  · rw [publishedBy_update, published]
  · rw [poppedBy_update, popped, Function.update_eq_self]

theorem step_visible {action : Action ι} (taken : peers.step state action = some next) :
    Visible state next := by
  cases Peers.step_cases taken with
  | publish vehicle payload => exact .publish rfl rfl
  | arrive _ _ _ _ => exact .still rfl rfl
  | iterate _ _ _ => exact .still rfl rfl
  | slot _ _ => exact .still rfl rfl
  | @loop _ vehicle _ own stepped =>
    cases SmallSwarm.step_cases stepped with
    | slot message => cases own
    | @popped event _ _ front =>
      apply Visible.takes vehicle event
      · rw [publishedBy_update]
        exact Function.update_eq_self _ _
      · rw [poppedBy_update]
        simp [Node.loop, front, poppedBy]
    | undefined _ empty => exact .still rfl (by simp [Node.loop, empty, poppedBy])
    | publish _ => exact .publish rfl rfl
    | _ => exact .still rfl rfl

/-! ## Steps of the swarm as moves of the board -/

/-- An event taken is one more of its own id, and of no other. -/
theorem eventsOf_taken {vehicle : ι} {event : SmallSwarm.EventText}
    (popped : poppedBy next =
      Function.update (poppedBy state) vehicle (poppedBy state vehicle ++ [event]))
    (receiver : ι) (vehicleId : Byte) :
    eventsOf vehicleId (poppedBy next receiver) =
      if receiver = vehicle ∧ event.metadata.vehicleId = vehicleId then
        eventsOf vehicleId (poppedBy state receiver) ++ [event.payload]
      else eventsOf vehicleId (poppedBy state receiver) := by
  rw [popped]
  by_cases same : receiver = vehicle
  · subst same
    rw [Function.update_self, eventsOf_append]
    by_cases own : event.metadata.vehicleId = vehicleId
    · simp [own, eventsOf]
    · simp [own, eventsOf]
  · rw [Function.update_of_ne same, if_neg fun both => same both.1]

/-- Publishing writes, taking an event reads, and all else the swarm does is nothing to
the logs. -/
theorem network_simulates (identified : peers.Identified) :
    Simulates (Takes peers.step) (Takes Bulletin.step) (Related peers) := by
  intro state action next bulletin related taken
  have sound := related.sound.step identified taken
  cases step_visible taken with
  | publishes vehicle payload published popped =>
    refine ⟨[.write vehicle payload], bulletin.write vehicle payload, .single rfl, sound, ?_, ?_⟩
    · rw [Bulletin.write, related.log, published]
    · intro receiver sender
      rw [popped]
      apply (related.read receiver sender).grow
      rw [published]
      by_cases same : sender = vehicle
      · subst same
        rw [Function.update_self]
        exact List.prefix_append _ _
      · rw [Function.update_of_ne same]
  | takes vehicle event published popped =>
    by_cases named : ∃ sender, (peers.vehicle sender).publish.vehicleId = event.metadata.vehicleId
    · obtain ⟨sender, named⟩ := named
      have contained := sound.delivered sender vehicle
      change (eventsOf _ (poppedBy next vehicle)).Sublist (publishedBy next sender) at contained
      rw [eventsOf_taken popped, if_pos ⟨rfl, named.symm⟩, published] at contained
      obtain ⟨position, inside, behind, earliest⟩ := (related.read vehicle sender).next contained
      refine ⟨[.read vehicle sender position], bulletin.readAt vehicle sender position,
        .single (if_pos ⟨related.log ▸ inside, behind⟩), sound, related.log.trans published.symm, ?_⟩
      intro receiver other
      rw [published, eventsOf_taken popped, Bulletin.readAt_read]
      by_cases same : receiver = vehicle
      · subst same
        by_cases own : other = sender
        · subst own
          simpa only [named, and_self, ↓reduceIte] using earliest
        · have foreign : event.metadata.vehicleId ≠ (peers.vehicle other).publish.vehicleId :=
            fun alike => own (identified.publishers (alike.symm.trans named.symm))
          simpa only [foreign, own, and_false, ↓reduceIte] using related.read receiver other
      · simpa only [same, false_and, ↓reduceIte] using related.read receiver other
    · refine ⟨[], bulletin, .start, sound, related.log.trans published.symm, ?_⟩
      intro receiver sender
      have foreign : event.metadata.vehicleId ≠ (peers.vehicle sender).publish.vehicleId :=
        fun alike => named ⟨sender, alike.symm⟩
      rw [published, eventsOf_taken popped]
      simpa only [foreign, and_false, ↓reduceIte] using related.read receiver sender
  | nothing published popped =>
    refine ⟨[], bulletin, .start, sound, related.log.trans published.symm, ?_⟩
    intro receiver sender
    rw [published, popped]
    exact related.read receiver sender

/-- Every run of the swarm is one of a bulletin board: its logs are the payloads the
vehicles published, and what a vehicle took under another's id are the entries it read of
that one's log, going forward only. -/
theorem swarm_refines_bulletin (deployment : Deployment ι) (nowMs : ι → Int)
    (message : ι → Nat → Storage ZMQ.sizeofMessage) (actions : List (Action ι)) (state : State ι)
    (run : Run (Takes deployment.peers.step) (initial nowMs message) actions state) :
    ∃ (moves : List (Bulletin.Move ι ι ZMQ.Payload)) (bulletin : Bulletin ι ι ZMQ.Payload),
      Run (Takes Bulletin.step) .empty moves bulletin ∧
      (∀ vehicle, bulletin.log vehicle = (state vehicle).published) ∧
      ∀ receiver sender, (bulletin.read receiver sender).Pairwise (· < ·) ∧
        bulletin.items receiver sender = ((state receiver).popped.filter fun event =>
            event.metadata.vehicleId = (deployment.vehicle sender).publish.vehicleId).map
          SmallSwarm.EventText.payload := by
  obtain ⟨moves, bulletin, matched, related⟩ :=
    run.simulated (network_simulates deployment.identified)
      (initial_related deployment.peers nowMs message)
  refine ⟨moves, bulletin, matched, fun vehicle => congrFun related.log vehicle, ?_⟩
  intro receiver sender
  refine ⟨Bulletin.run_orderly matched receiver sender, ?_⟩
  rw [Bulletin.items, related.log]
  exact (related.read receiver sender).spells

theorem swarm_refines_bulletin_sample :
    ∃ state, Run (Takes sampleDeployment.peers.step) (initial (fun _ => 0) fun _ _ => .zeros 35)
        sampleActions state ∧
      ∃ (moves : List (Bulletin.Move Bool Bool ZMQ.Payload)) (bulletin : Bulletin Bool Bool ZMQ.Payload),
        Run (Takes Bulletin.step) .empty moves bulletin ∧ bulletin.items false true ≠ [] := by
  have executed : (execute sampleDeployment.peers.step (initial (fun _ => 0) fun _ _ => .zeros 35)
      sampleActions).map (fun state => ((state false).popped.filter fun event =>
        event.metadata.vehicleId = (sampleDeployment.vehicle true).publish.vehicleId).length) =
        some 1 := by
    decide +kernel
  obtain ⟨state, done, popped⟩ := Option.map_eq_some_iff.mp executed
  have run := execute_run done
  obtain ⟨moves, bulletin, matched, _, reads⟩ :=
    swarm_refines_bulletin sampleDeployment _ _ sampleActions state run
  refine ⟨state, run, moves, bulletin, matched, ?_⟩
  intro none
  have one := congrArg List.length ((reads false true).2.symm.trans none)
  rw [List.length_map, popped] at one
  cases one

end VehicleRunner.Swarm
