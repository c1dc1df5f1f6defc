import VehicleRunner.Foundation.Guarding
import VehicleRunner.Plugin.SmallSwarm

/-! The slots a `SmallSwarm_Impl` connects to its subscribers over its whole life, with
messages emitted at any moment. The subscribers and their signals outlive it. -/

namespace VehicleRunner.Plugin.SmallSwarm.Slots

open VehicleRunner.Foundation VehicleRunner.Bundle

/-- Identity of a subscriber; the handles copied from the list share one. -/
abbrev SubscriberRef := Nat

structure Life where
  zmqSubscribes : List SubscriberRef
  runThread : Bool
  destroyed : Bool
  swarm : State
  /-- The subscriber of each connection made to a slot of the object, oldest first. -/
  connections : List SubscriberRef

def constructed (zmqSubscribes : List SubscriberRef) : Life where
  zmqSubscribes := zmqSubscribes
  runThread := false
  destroyed := false
  swarm := SmallSwarm.initial 0
  connections := []

/-- The loop begins anew over the event buffer there is, and a slot is connected to each
subscriber. -/
def exec (nowMs : Int) (life : Life) : Life :=
  { life with
    runThread := true
    swarm := { SmallSwarm.initial nowMs with eventBuffer := life.swarm.eventBuffer }
    connections := life.connections ++ life.zmqSubscribes }

/-- Ends the thread, and touches no signal. -/
def stop (life : Life) : Life :=
  if life.runThread then { life with runThread := false } else life

@[simp] theorem stop_runThread (life : Life) : (stop life).runThread = false := by
  unfold stop
  cases running : life.runThread with
  | true => rfl
  | false => exact running

@[simp] theorem stop_connections (life : Life) : (stop life).connections = life.connections := by
  unfold stop
  split <;> rfl

/-- Every connected slot takes the message. -/
def emit (subscriber : SubscriberRef) (message : ZMQ.Message) (life : Life) : Life :=
  { life with swarm := { life.swarm with
      eventBuffer := (fun eventBuffer => slotZmqMessageArrived eventBuffer message)^[
        life.connections.count subscriber] life.swarm.eventBuffer } }

inductive Action where
  | exec (nowMs : Int)
  | stop
  | destroy
  | emit (subscriber : SubscriberRef) (message : ZMQ.Message)
  | loop (action : SmallSwarm.Action)
  deriving DecidableEq

/-- Only a stopped object is started, and none is used once it is destroyed. -/
def step (life : Life) : Action → Option Life
  | .exec nowMs => if life.runThread ∨ life.destroyed then none else some (exec nowMs life)
  | .stop => if life.destroyed then none else some (stop life)
  | .destroy => if life.destroyed then none else some { stop life with destroyed := true }
  | .emit subscriber message => some (emit subscriber message life)
  | .loop (.slot _) => none
  | .loop action =>
    if life.runThread then
      (SmallSwarm.step life.swarm action).map fun swarm => { life with swarm := swarm }
    else none

/-- A running object takes each message of a subscriber once, through its one slot; one
that is stopped or destroyed has no slot anywhere, and no message reaches it. -/
structure SlotsFollow (life : Life) : Prop where
  connected : life.runThread = true → ∀ subscriber ∈ life.zmqSubscribes,
    life.connections.count subscriber = 1
  taken : life.runThread = true → ∀ subscriber ∈ life.zmqSubscribes, ∀ message,
    (emit subscriber message life).swarm.eventBuffer =
      slotZmqMessageArrived life.swarm.eventBuffer message
  disconnected : life.runThread = false → ∀ subscriber, life.connections.count subscriber = 0
  unreached : life.runThread = false → ∀ subscriber message, emit subscriber message life = life

/-- Slots are connected to distinct subscribers, and none is left connected behind. -/
def Tidy (life : Life) : Action → Prop
  | .exec _ => life.zmqSubscribes.Nodup
  | .stop => life.runThread = true → life.zmqSubscribes = []
  | .destroy => life.runThread = true → life.zmqSubscribes = []
  | _ => True

instance (life : Life) (action : Action) : Decidable (Tidy life action) := by
  cases action <;> unfold Tidy <;> infer_instance

/-- What tidy steps keep: the connections are those of the last `Exec` and no others. -/
structure Connected (life : Life) : Prop where
  exactly : life.connections = if life.runThread then life.zmqSubscribes else []
  distinct : life.runThread = true → life.zmqSubscribes.Nodup
  ended : life.destroyed = true → life.runThread = false

theorem constructed_connected (zmqSubscribes : List SubscriberRef) :
    Connected (constructed zmqSubscribes) where
  exactly := rfl
  distinct := by intro running; cases running
  ended := by intro gone; cases gone

theorem Connected.running {life : Life} (connected : Connected life) (running : life.runThread = true) :
    life.connections = life.zmqSubscribes := by
  rw [connected.exactly, if_pos running]

theorem Connected.idle {life : Life} (connected : Connected life) (idle : life.runThread = false) :
    life.connections = [] := by
  rw [connected.exactly, idle, if_neg (by simp)]

theorem Connected.follow {life : Life} (connected : Connected life) : SlotsFollow life := by
  cases running : life.runThread with
  | true =>
    have once (subscriber : SubscriberRef) (member : subscriber ∈ life.zmqSubscribes) :
        life.connections.count subscriber = 1 := by
      rw [connected.running running]
      exact List.count_eq_one_of_mem (connected.distinct running) member
    refine ⟨fun _ => once, ?_, by simp [running], by simp [running]⟩
    intro _ subscriber member message
    simp only [emit, once subscriber member]
    rfl
  | false =>
    have none (subscriber : SubscriberRef) : life.connections.count subscriber = 0 := by
      rw [connected.idle running, List.count_nil]
    refine ⟨by simp [running], by simp [running], fun _ => none, ?_⟩
    intro _ subscriber message
    simp only [emit, none]
    rfl

/-- A step that leaves the connections, and all they depend on, as they were. -/
structure Untouched (life next : Life) : Prop where
  zmqSubscribes : next.zmqSubscribes = life.zmqSubscribes
  runThread : next.runThread = life.runThread
  destroyed : next.destroyed = life.destroyed
  connections : next.connections = life.connections

theorem loop_untouched {life next : Life} {action : SmallSwarm.Action}
    (taken : step life (.loop action) = some next) : Untouched life next := by
  have moved : ∃ swarm, next = { life with swarm := swarm } := by
    cases action with
    | slot message => cases taken
    | _ =>
      obtain ⟨_, stepped⟩ := Option.ite_none_right_eq_some.mp taken
      obtain ⟨swarm, _, same⟩ := Option.map_eq_some_iff.mp stepped
      exact ⟨swarm, same.symm⟩
  obtain ⟨swarm, rfl⟩ := moved
  exact ⟨rfl, rfl, rfl, rfl⟩

/-- Where stopping is tidy, nothing is connected. -/
theorem Connected.tidied {life : Life} (connected : Connected life)
    (tidy : life.runThread = true → life.zmqSubscribes = []) : life.connections = [] := by
  cases running : life.runThread with
  | true => rw [connected.running running, tidy running]
  | false => exact connected.idle running

/-- A running object that has subscribers is connected to one of them. -/
theorem Connected.untidied {life : Life} (connected : Connected life)
    (untidy : ¬ (life.runThread = true → life.zmqSubscribes = [])) :
    ∃ subscriber, life.connections.count subscriber ≠ 0 := by
  obtain ⟨running, some⟩ := Classical.not_imp.mp untidy
  obtain ⟨subscriber, member⟩ := List.exists_mem_of_ne_nil _ some
  refine ⟨subscriber, Nat.ne_of_gt (List.count_pos_iff.mpr ?_)⟩
  rw [connected.running running]
  exact member

theorem exec_taken {life next : Life} {nowMs : Int} (taken : step life (.exec nowMs) = some next) :
    life.runThread = false ∧ life.destroyed = false ∧ next = exec nowMs life := by
  obtain ⟨ready, same⟩ := Option.ite_none_left_eq_some.mp taken
  obtain rfl := Option.some.inj same
  refine ⟨?_, ?_, rfl⟩
  · simpa using fun running => ready (.inl running)
  · simpa using fun gone => ready (.inr gone)

/-- `Stop` and the destructor end the thread, and touch no connection. -/
theorem ending_taken {life next : Life} {action : Action}
    (ending : action = .stop ∨ action = .destroy) (taken : step life action = some next) :
    next.runThread = false ∧ next.connections = life.connections := by
  rcases ending with rfl | rfl
  · obtain ⟨_, same⟩ := Option.ite_none_left_eq_some.mp taken
    obtain rfl := Option.some.inj same
    exact ⟨stop_runThread life, stop_connections life⟩
  · obtain ⟨_, same⟩ := Option.ite_none_left_eq_some.mp taken
    obtain rfl := Option.some.inj same
    exact ⟨stop_runThread life, stop_connections life⟩

/-- An object that does not run, and is connected to nothing, is as it should be. -/
theorem Connected.of_idle {life : Life} (idle : life.runThread = false) (bare : life.connections = []) :
    Connected life where
  exactly := by rw [idle, bare, if_neg (by simp)]
  distinct := by intro running; simp [idle] at running
  ended := fun _ => idle

theorem Connected.untouched {life next : Life} (connected : Connected life)
    (same : Untouched life next) : Connected next where
  exactly := by rw [same.connections, same.runThread, same.zmqSubscribes]; exact connected.exactly
  distinct := by rw [same.runThread, same.zmqSubscribes]; exact connected.distinct
  ended := by rw [same.runThread, same.destroyed]; exact connected.ended

theorem Connected.step {life next : Life} {action : Action} (connected : Connected life)
    (tidy : Tidy life action) (taken : Slots.step life action = some next) : Connected next := by
  cases action with
  | exec nowMs =>
    obtain ⟨idle, live, rfl⟩ := exec_taken taken
    refine ⟨?_, fun _ => tidy, ?_⟩
    · simp [exec, connected.idle idle]
    · intro gone
      rw [exec, live] at gone
      cases gone
  | stop =>
    obtain ⟨stopped, same⟩ := ending_taken (.inl rfl) taken
    exact .of_idle stopped (same.trans (connected.tidied tidy))
  | destroy =>
    obtain ⟨stopped, same⟩ := ending_taken (.inr rfl) taken
    exact .of_idle stopped (same.trans (connected.tidied tidy))
  | emit subscriber message =>
    obtain rfl := Option.some.inj taken
    exact connected.untouched ⟨rfl, rfl, rfl, rfl⟩
  | loop action => exact connected.untouched (loop_untouched taken)

/-- A step that is not tidy leaves a slot too many: a second one on a subscriber, or one
that outlives the swarm. -/
theorem Connected.broken {life next : Life} {action : Action} (connected : Connected life)
    (untidy : ¬ Tidy life action) (taken : Slots.step life action = some next) :
    ¬ SlotsFollow next := by
  have outlived (ending : action = .stop ∨ action = .destroy)
      (left : ∃ subscriber, life.connections.count subscriber ≠ 0) : ¬ SlotsFollow next := by
    obtain ⟨stopped, same⟩ := ending_taken ending taken
    obtain ⟨subscriber, left⟩ := left
    intro follow
    have none := follow.disconnected stopped subscriber
    rw [same] at none
    exact left none
  cases action with
  | exec nowMs =>
    obtain ⟨idle, _, rfl⟩ := exec_taken taken
    intro follow
    apply untidy
    apply List.nodup_iff_count_le_one.mpr
    intro subscriber
    by_cases member : subscriber ∈ life.zmqSubscribes
    · have once := follow.connected rfl subscriber member
      simp only [exec, connected.idle idle, List.nil_append] at once
      exact Nat.le_of_eq once
    · rw [List.count_eq_zero_of_not_mem member]
      exact Nat.zero_le 1
  | stop => exact outlived (.inl rfl) (connected.untidied untidy)
  | destroy => exact outlived (.inr rfl) (connected.untidied untidy)
  | _ => exact absurd trivial untidy

/-- The slots follow the swarm in every state of a run exactly when no running swarm with
subscribers is stopped or destroyed, and its subscribers are distinct. -/
theorem slots_follow_iff (zmqSubscribes : List SubscriberRef) (actions : List Action) (life : Life)
    (run : Run (Takes step) (constructed zmqSubscribes) actions life) :
    Throughout (Takes step) (constructed zmqSubscribes) actions SlotsFollow ↔
      Run (Guarded Tidy (Takes step)) (constructed zmqSubscribes) actions life :=
  run.throughout_iff (constructed_connected zmqSubscribes) (fun _ connected => connected.follow)
    (fun _ _ _ connected tidy taken => connected.step tidy taken)
    (fun _ _ _ connected untidy taken => connected.broken untidy taken)

/-- A position broadcast by the leader. -/
def leaderMessage : ZMQ.Message where
  header := ⟨ZMQ.vehicleIdLeader, ZMQ.msgVehiclePayload⟩
  payload := payloadOf {} {}
  footer := ⟨0⟩

/-- A swarm that is started and runs on. -/
theorem slots_follow_running :
    ∃ life, Run (Takes step) (constructed [0, 1]) [.exec 0, .emit 0 leaderMessage] life ∧
      Throughout (Takes step) (constructed [0, 1]) [.exec 0, .emit 0 leaderMessage] SlotsFollow := by
  have guarded : Run (Guarded Tidy (Takes step)) (constructed [0, 1])
      [.exec 0, .emit 0 leaderMessage] _ := execute_guarded rfl
  exact ⟨_, guarded.unguard, (slots_follow_iff _ _ _ guarded.unguard).mpr guarded⟩

/-- A swarm destroyed while it runs leaves a slot behind. -/
theorem slots_left :
    ¬ ∀ (zmqSubscribes : List SubscriberRef) (actions : List Action) (life : Life),
      Run (Takes step) (constructed zmqSubscribes) actions life → life.destroyed = true →
      Throughout (Takes step) (constructed zmqSubscribes) actions SlotsFollow := by
  intro follow
  have run : Run (Takes step) (constructed [0]) [.exec 0, .destroy] _ := execute_run rfl
  have last := follow _ _ _ run rfl _ [] _ (List.append_nil _).symm run
  have left := last.disconnected rfl 0
  exact absurd left (by decide)

end VehicleRunner.Plugin.SmallSwarm.Slots
