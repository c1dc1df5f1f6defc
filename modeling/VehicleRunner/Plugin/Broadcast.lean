import VehicleRunner.Plugin.SmallSwarm

/-! What the loop broadcasts while the autopilot comes and goes: each published
payload beside what the getters returned in the same iteration. -/

namespace VehicleRunner.Plugin.SmallSwarm

open VehicleRunner.Foundation VehicleRunner.Bundle

/-- A payload handed to the publisher, and what `GetPosition` and `GetVelocity`
returned with result 0 since the iteration began. -/
structure Broadcast where
  payload : ZMQ.Payload
  position : Option MavVehicle.PositionLlh
  velocity : Option MavVehicle.VelocityNed
  deriving DecidableEq

/-- The loop beside the telemetry object, which is set and reset under it. -/
structure Observed where
  swarm : State
  telemetry : Option MavVehicle.Telemetry
  position : Option MavVehicle.PositionLlh
  velocity : Option MavVehicle.VelocityNed
  broadcasts : List Broadcast

inductive Turn where
  | telemetry (reported : Option MavVehicle.Telemetry)
  | loop (action : Action)
  deriving DecidableEq

/-- Getters see the telemetry object as it is when they are called. -/
def Action.sees (telemetry : Option MavVehicle.Telemetry) : Action → Prop
  | .getPosition seen => seen = telemetry
  | .getVelocity seen => seen = telemetry
  | _ => True

instance (telemetry : Option MavVehicle.Telemetry) (action : Action) :
    Decidable (action.sees telemetry) := by
  cases action <;> unfold Action.sees <;> infer_instance

def succeeded {Value : Type} (call : Int × Value) : Option Value :=
  if call.1 = 0 then some call.2 else none

def note (observed : Observed) (next : State) : Action → Observed
  | .test => { observed with swarm := next, position := none, velocity := none }
  | .getPosition telemetry =>
    { observed with
      swarm := next
      position := succeeded (MavVehicle.getPosition telemetry observed.swarm.positionLlh) }
  | .getVelocity telemetry =>
    { observed with
      swarm := next
      velocity := succeeded (MavVehicle.getVelocity telemetry observed.swarm.velocityNed) }
  | .publish =>
    { observed with
      swarm := next
      broadcasts := observed.broadcasts ++
        [⟨broadcast observed.swarm, observed.position, observed.velocity⟩] }
  | _ => { observed with swarm := next }

def turn (observed : Observed) : Turn → Option Observed
  | .telemetry reported => some { observed with telemetry := reported }
  | .loop action =>
    if action.sees observed.telemetry then
      (step observed.swarm action).map fun next => note observed next action
    else none

def Observed.initial (nowMs : Int) : Observed where
  swarm := SmallSwarm.initial nowMs
  telemetry := none
  position := none
  velocity := none
  broadcasts := []

/-- The payload carries a position and a velocity read in its own iteration. -/
def Broadcast.Fresh (sent : Broadcast) : Prop :=
  ∃ llh ned, sent.position = some llh ∧ sent.velocity = some ned ∧ sent.payload = payloadOf llh ned

/-- A getter is called only while the telemetry object is set. -/
def Available (observed : Observed) : Turn → Prop
  | .loop (.getPosition _) => observed.telemetry.isSome = true
  | .loop (.getVelocity _) => observed.telemetry.isSome = true
  | _ => True

instance (observed : Observed) (played : Turn) : Decidable (Available observed played) := by
  unfold Available
  split <;> infer_instance

theorem turn_loop {observed next : Observed} {action : Action}
    (taken : turn observed (.loop action) = some next) :
    action.sees observed.telemetry ∧
      ∃ swarm, Stepped observed.swarm action swarm ∧ next = note observed swarm action := by
  by_cases seen : action.sees observed.telemetry
  · simp only [turn, seen, ↓reduceIte] at taken
    obtain ⟨swarm, stepped, noted⟩ := Option.map_eq_some_iff.mp taken
    exact ⟨seen, swarm, step_cases stepped, noted.symm⟩
  · simp only [turn, seen, ↓reduceIte] at taken
    cases taken

/-! ## Broadcasts are fresh while every getter finds the telemetry -/

/-- All broadcasts so far are fresh, and the buffers read in this iteration are
the ones the next broadcast will carry. -/
structure Settled (observed : Observed) : Prop where
  fresh : ∀ sent ∈ observed.broadcasts, sent.Fresh
  half : observed.swarm.point = .getVelocity →
    observed.position = some observed.swarm.positionLlh
  full : observed.swarm.point = .publish →
    observed.position = some observed.swarm.positionLlh ∧
      observed.velocity = some observed.swarm.velocityNed

theorem initial_settled (nowMs : Int) : Settled (Observed.initial nowMs) where
  fresh := nofun
  half := nofun
  full := nofun

theorem Settled.turn {observed next : Observed} {played : Turn} (settled : Settled observed)
    (available : Available observed played) (taken : turn observed played = some next) :
    Settled next := by
  cases played with
  | telemetry reported =>
    cases taken
    exact ⟨settled.fresh, settled.half, settled.full⟩
  | loop action =>
    obtain ⟨seen, swarm, stepped, rfl⟩ := turn_loop taken
    cases stepped with
    | slot message => exact ⟨settled.fresh, settled.half, settled.full⟩
    | idle _ _ => exact ⟨settled.fresh, nofun, nofun⟩
    | ready _ _ => exact ⟨settled.fresh, nofun, nofun⟩
    | popped _ _ => exact ⟨settled.fresh, nofun, nofun⟩
    | undefined _ _ => exact ⟨settled.fresh, nofun, nofun⟩
    | due _ _ => exact ⟨settled.fresh, nofun, nofun⟩
    | early _ _ => exact ⟨settled.fresh, nofun, nofun⟩
    | getPosition _ =>
      obtain ⟨reading, present⟩ := Option.isSome_iff_exists.mp available
      obtain rfl : _ = some reading := seen.trans present
      exact ⟨settled.fresh, fun _ => rfl, nofun⟩
    | getVelocity here =>
      obtain ⟨reading, present⟩ := Option.isSome_iff_exists.mp available
      obtain rfl : _ = some reading := seen.trans present
      exact ⟨settled.fresh, nofun, fun _ => ⟨settled.half here, rfl⟩⟩
    | publish here =>
      obtain ⟨position, velocity⟩ := settled.full here
      refine ⟨?_, nofun, nofun⟩
      intro sent member
      rcases List.mem_append.mp member with old | new
      · exact settled.fresh sent old
      · rw [List.mem_singleton.mp new]
        exact ⟨_, _, position, velocity, rfl⟩

/-! ## A getter that finds none leads to a stale broadcast -/

/-- A broadcast is stale, or the next one will be. -/
def Missed (observed : Observed) : Prop :=
  (∃ sent ∈ observed.broadcasts, ¬ sent.Fresh) ∨
  (observed.swarm.point = .getVelocity ∧ observed.position = none) ∨
  (observed.swarm.point = .publish ∧ (observed.position = none ∨ observed.velocity = none))

theorem not_fresh {sent : Broadcast} (missing : sent.position = none ∨ sent.velocity = none) :
    ¬ sent.Fresh := by
  rintro ⟨llh, ned, position, velocity, _⟩
  rcases missing with none | none
  · rw [none] at position; cases position
  · rw [none] at velocity; cases velocity

theorem Missed.turn {observed next : Observed} {played : Turn} (missed : Missed observed)
    (taken : turn observed played = some next) : Missed next := by
  cases played with
  | telemetry reported =>
    cases taken
    exact missed
  | loop action =>
    obtain ⟨_, swarm, stepped, rfl⟩ := turn_loop taken
    rcases missed with ⟨sent, member, stale⟩ | ⟨point, none⟩ | ⟨point, missing⟩
    · left
      cases stepped with
      | publish _ => exact ⟨sent, List.mem_append_left _ member, stale⟩
      | _ => exact ⟨sent, member, stale⟩
    · cases stepped with
      | slot _ => exact .inr (.inl ⟨point, none⟩)
      | getVelocity _ => exact .inr (.inr ⟨rfl, .inl none⟩)
      | _ here => rw [point] at here; cases here
    · cases stepped with
      | slot _ => exact .inr (.inr ⟨point, missing⟩)
      | publish _ =>
        exact .inl ⟨_, List.mem_append_right _ (List.mem_singleton_self _), not_fresh missing⟩
      | _ here => rw [point] at here; cases here

theorem missed_of_unavailable {observed next : Observed} {played : Turn}
    (unavailable : ¬ Available observed played) (taken : turn observed played = some next) :
    Missed next := by
  cases played with
  | telemetry reported => exact absurd trivial unavailable
  | loop action =>
    obtain ⟨seen, swarm, stepped, rfl⟩ := turn_loop taken
    cases stepped with
    | getPosition _ =>
      obtain rfl : _ = none := seen.trans (Option.not_isSome_iff_eq_none.mp unavailable)
      exact .inr (.inl ⟨rfl, rfl⟩)
    | getVelocity _ =>
      obtain rfl : _ = none := seen.trans (Option.not_isSome_iff_eq_none.mp unavailable)
      exact .inr (.inr ⟨rfl, .inr rfl⟩)
    | _ => exact absurd trivial unavailable

theorem guarded_or_missed {start observed : Observed} {turns : List Turn}
    (run : Run (Takes turn) start turns observed) :
    Run (Guarded Available (Takes turn)) start turns observed ∨ Missed observed := by
  induction run with
  | start => exact .inl .start
  | @step _ before played next _ taken ih =>
    rcases ih with guarded | missed
    · by_cases available : Available before played
      · exact .inl (.step guarded ⟨available, taken⟩)
      · exact .inr (missed_of_unavailable available taken)
    · exact .inr (missed.turn taken)

/-- Broadcasts are fresh in every run whose getters all find the telemetry object
set; and in a run of whole iterations they are fresh only then. -/
theorem broadcasts_fresh_iff (nowMs : Int) (turns : List Turn) (observed : Observed)
    (run : Run (Takes turn) (Observed.initial nowMs) turns observed) :
    (Run (Guarded Available (Takes turn)) (Observed.initial nowMs) turns observed →
      ∀ sent ∈ observed.broadcasts, sent.Fresh) ∧
    (observed.swarm.point = .test → (∀ sent ∈ observed.broadcasts, sent.Fresh) →
      Run (Guarded Available (Takes turn)) (Observed.initial nowMs) turns observed) := by
  constructor
  · intro guarded
    have settled : Settled observed := guarded.invariant (initial_settled nowMs)
      fun _ _ _ kept taken => kept.turn taken.1 taken.2
    exact settled.fresh
  · intro whole fresh
    rcases guarded_or_missed run with guarded | ⟨sent, member, stale⟩ | ⟨point, _⟩ | ⟨point, _⟩
    · exact guarded
    · exact absurd (fresh sent member) stale
    · rw [whole] at point; cases point
    · rw [whole] at point; cases point

/-- One iteration that is due, with what its getters find. -/
def oneIteration (telemetry : Option MavVehicle.Telemetry) : List Turn :=
  [.telemetry telemetry, .loop .test, .loop (.clock 200), .loop (.getPosition telemetry),
    .loop (.getVelocity telemetry), .loop .publish]

theorem broadcasts_fresh_available :
    ∃ observed, Run (Takes turn) (Observed.initial 0) (oneIteration (some .zeros)) observed ∧
      observed.broadcasts.length = 1 ∧ ∀ sent ∈ observed.broadcasts, sent.Fresh := by
  have guarded : Run (Guarded Available (Takes turn)) (Observed.initial 0)
      (oneIteration (some .zeros)) _ := execute_guarded rfl
  exact ⟨_, guarded.unguard, rfl,
    (broadcasts_fresh_iff 0 (oneIteration (some .zeros)) _ guarded.unguard).1 guarded⟩

/-- Before any autopilot has come, the first iteration that is due broadcasts the
initial position. -/
theorem broadcasts_stale :
    ¬ ∀ (nowMs : Int) (turns : List Turn) (observed : Observed),
      Run (Takes turn) (Observed.initial nowMs) turns observed →
      ∀ sent ∈ observed.broadcasts, sent.Fresh := by
  intro fresh
  have run : Run (Takes turn) (Observed.initial 0) (oneIteration none) _ := execute_run rfl
  exact not_fresh (.inl rfl) (fresh 0 (oneIteration none) _ run _ (List.mem_singleton_self _))

end VehicleRunner.Plugin.SmallSwarm
