import VehicleRunner.Bundle.MavVehicle

/-! Runs of `MavVehicle_Impl` after `Exec`: new-system notifications and connection
changes in any order, with each registered callback run at each change. -/

namespace VehicleRunner.Bundle.MavVehicle

open VehicleRunner.Foundation VehicleRunner.Misc

/-- The object, the library's side, and the connection callbacks run so far. -/
structure Vehicle where
  world : World
  state : State
  delivered : List (SystemRef × Bool)

/-- The connection callback is registered on a system under the object's handle. -/
def Vehicle.registered (vehicle : Vehicle) (system : SystemRef) : Bool :=
  match vehicle.state.hmavIsConnected with
  | none => false
  | some handle => vehicle.world.callbacks.contains (system, handle)

inductive Event where
  | newSystem (firstAutopilot : Option SystemRef)
  | connectionChanged (system : SystemRef) (connected : Bool) (airframe : Option Int)
  deriving DecidableEq

def World.change (world : World) (system : SystemRef) (connected : Bool) : World :=
  { world with isConnected := Function.update world.isConnected system connected }

def handle (vehicle : Vehicle) : Event → Except Crash Vehicle
  | .newSystem firstAutopilot => do
    let state ← onMavOnNewSystem vehicle.world firstAutopilot vehicle.state
    return { vehicle with state := state }
  | .connectionChanged system connected airframe => do
    let world := vehicle.world.change system connected
    if vehicle.registered system then
      let (world, state) ← onMavSystemIsConnected world connected airframe vehicle.state
      return { world := world, state := state, delivered := vehicle.delivered ++ [(system, connected)] }
    else return { vehicle with world := world }

def Handles (before : Vehicle) (event : Event) (after : Vehicle) : Prop :=
  handle before event = .ok after

/-- A new object right after a successful `Exec`. -/
def started (config : Config) (world : World) : Vehicle where
  world := world
  state := (exec true { config := config }).2
  delivered := []

/-- An autopilot notified while no connected system with its id is held becomes
the held system, with the connection callback registered on it. -/
def Adopted (before : Vehicle) (event : Event) (after : Vehicle) : Prop :=
  ∀ autopilot, event = .newSystem (some autopilot) →
    (¬ ∃ held, before.state.system = some held ∧ before.world.isConnected held = true ∧
      before.world.systemId held = before.world.systemId autopilot) →
    after.state.system = some autopilot ∧ after.registered autopilot = true

/-- Once an autopilot is connected and its callback has run, nothing the object
offers is refused for want of a vehicle. -/
def Usable (vehicle : Vehicle) : Prop :=
  ∀ autopilot, vehicle.world.isConnected autopilot = true → (autopilot, true) ∈ vehicle.delivered →
    (∀ llh, (getPosition (vehicle.state.telemetry.map vehicle.world.telemetry) llh).1 ≠ -EUNATCH) ∧
    (∀ ned, (getVelocity (vehicle.state.telemetry.map vehicle.world.telemetry) ned).1 ≠ -EUNATCH) ∧
    ∀ accepted targetCid msgType stream,
      (publishMessage vehicle.state.passthru accepted targetCid msgType stream).1 ≠ -EUNATCH

/-- Every notification of a run adopts its autopilot, and every state is usable. -/
def DiscoveryWorks (start : Vehicle) (events : List Event) : Prop :=
  (∀ earlier event later before after, events = earlier ++ event :: later →
    Run Handles start earlier before → Handles before event after → Adopted before event after) ∧
  ∀ earlier later reached, events = earlier ++ later → Run Handles start earlier reached →
    Usable reached

/-- The object holds no system and has registered no connection callback. -/
structure Idle (vehicle : Vehicle) : Prop where
  executed : vehicle.state.mavsdk.isSome = true
  unheld : vehicle.state.system = none
  unregistered : vehicle.state.hmavIsConnected = none
  silent : vehicle.delivered = []

theorem started_idle (config : Config) (world : World) : Idle (started config world) :=
  ⟨rfl, rfl, rfl, rfl⟩

/-- No event changes the object, and none crashes. -/
theorem Idle.handles {vehicle : Vehicle} (idle : Idle vehicle) (event : Event) :
    ∃ next, Handles vehicle event next ∧ next.state = vehicle.state ∧
      next.delivered = vehicle.delivered := by
  cases event with
  | newSystem firstAutopilot =>
    rcases onMavOnNewSystem_cases vehicle.world firstAutopilot vehicle.state with
      ⟨_, unchanged⟩ | ⟨missing, _⟩
    · refine ⟨vehicle, ?_, rfl, rfl⟩
      simp only [Handles, handle, unchanged, bind, Except.bind]
      rfl
    · rw [idle.executed] at missing
      cases missing
  | connectionChanged system connected airframe =>
    have unregistered : vehicle.registered system = false := by
      simp [Vehicle.registered, idle.unregistered]
    refine ⟨{ vehicle with world := vehicle.world.change system connected }, ?_, rfl, rfl⟩
    simp [Handles, handle, unregistered, pure, Except.pure]

theorem Idle.next {vehicle next : Vehicle} {event : Event} (idle : Idle vehicle)
    (handled : Handles vehicle event next) : Idle next := by
  obtain ⟨other, success, state, delivered⟩ := idle.handles event
  have same : next = other := Except.ok.inj (handled.symm.trans success)
  subst next
  exact ⟨by rw [state]; exact idle.executed, by rw [state]; exact idle.unheld,
    by rw [state]; exact idle.unregistered, by rw [delivered]; exact idle.silent⟩

theorem Idle.reached {vehicle reached : Vehicle} {events : List Event} (idle : Idle vehicle)
    (run : Run Handles vehicle events reached) : Idle reached :=
  run.invariant idle fun _ _ _ kept handled => kept.next handled

/-- Every sequence of events runs to its end. -/
theorem Idle.runs {vehicle : Vehicle} (idle : Idle vehicle) (events : List Event) :
    ∃ final, Run Handles vehicle events final := by
  induction events generalizing vehicle with
  | nil => exact ⟨vehicle, .start⟩
  | cons event events ih =>
    obtain ⟨next, handled, _, _⟩ := idle.handles event
    obtain ⟨final, rest⟩ := ih (idle.next handled)
    exact ⟨final, (Run.step .start handled).trans rest⟩

/-- The object holds nothing of an autopilot. -/
structure Unplugged (vehicle : Vehicle) : Prop where
  idle : Idle vehicle
  telemetry : vehicle.state.telemetry = none
  passthru : vehicle.state.passthru = none

/-- `Exec` plugs nothing in, whether or not the connection opens. -/
theorem exec_unplugged (config : Config) (opened : Bool) (world : World) :
    Unplugged { world := world, state := (exec opened { config := config }).2, delivered := [] } := by
  cases opened with
  | true => exact ⟨⟨rfl, rfl, rfl, rfl⟩, rfl, rfl⟩
  | false => exact ⟨⟨rfl, rfl, rfl, rfl⟩, rfl, rfl⟩

theorem Unplugged.handles {vehicle : Vehicle} (unplugged : Unplugged vehicle) (event : Event) :
    ∃ next, handle vehicle event = .ok next ∧ Unplugged next := by
  obtain ⟨next, handled, state, _⟩ := unplugged.idle.handles event
  exact ⟨next, handled, unplugged.idle.next handled, state ▸ unplugged.telemetry,
    state ▸ unplugged.passthru⟩

theorem Unplugged.next {vehicle next : Vehicle} {event : Event} (unplugged : Unplugged vehicle)
    (handled : handle vehicle event = .ok next) : Unplugged next := by
  obtain ⟨other, success, still⟩ := unplugged.handles event
  obtain rfl : next = other := Except.ok.inj (handled.symm.trans success)
  exact still

/-- No sequence of notifications fails, and none plugs anything in. -/
theorem Unplugged.handlesAll {vehicle : Vehicle} (unplugged : Unplugged vehicle) (events : List Event) :
    ∃ later, events.foldlM handle vehicle = .ok later ∧ Unplugged later := by
  induction events generalizing vehicle with
  | nil => exact ⟨vehicle, rfl, unplugged⟩
  | cons event events ih =>
    obtain ⟨next, handled, still⟩ := unplugged.handles event
    obtain ⟨later, rest, kept⟩ := ih still
    refine ⟨later, ?_, kept⟩
    rw [List.foldlM_cons, handled]
    exact rest

theorem Idle.usable {vehicle : Vehicle} (idle : Idle vehicle) : Usable vehicle := by
  intro autopilot _ ran
  rw [idle.silent] at ran
  cases ran

/-- After a successful `Exec` every sequence of events runs to its end, and
discovery works along it exactly when no notification finds an autopilot. -/
theorem discovery_works_iff (config : Config) (world : World) (events : List Event) :
    (∃ final, Run Handles (started config world) events final) ∧
    (DiscoveryWorks (started config world) events ↔
      ∀ autopilot, Event.newSystem (some autopilot) ∉ events) := by
  have idle := started_idle config world
  refine ⟨idle.runs events, ?_⟩
  constructor
  · rintro ⟨adopts, _⟩ autopilot member
    obtain ⟨earlier, later, split⟩ := List.append_of_mem member
    obtain ⟨before, run⟩ := idle.runs earlier
    have waiting := idle.reached run
    obtain ⟨after, handled, _, _⟩ := waiting.handles (.newSystem (some autopilot))
    have adopted := adopts earlier _ later before after split run handled autopilot rfl (by
      rintro ⟨held, holds, _⟩
      rw [waiting.unheld] at holds
      cases holds)
    have empty := (waiting.next handled).unheld
    rw [adopted.1] at empty
    cases empty
  · intro absent
    constructor
    · intro earlier event later before after split run handled autopilot same
      subst event
      exact absurd (by rw [split]; simp) (absent autopilot)
    · intro earlier later reached _ run
      exact (idle.reached run).usable

/-- A library that has discovered connected systems, all with id 1. -/
def connectedWorld : World where
  isConnected := fun _ => true
  systemId := fun _ => 1
  telemetry := fun _ => .zeros
  callbacks := []

/-- One autopilot found right after `Exec` is not adopted. -/
theorem discovery_fails :
    ¬ ∀ (config : Config) (world : World) (events : List Event),
      DiscoveryWorks (started config world) events := by
  intro works
  obtain ⟨adopts, _⟩ := works ⟨"udp://:14550", false, false⟩ connectedWorld [.newSystem (some 0)]
  have adopted := adopts [] (.newSystem (some 0)) [] _ _ rfl .start rfl 0 rfl (by
    rintro ⟨held, holds, _⟩
    cases holds)
  cases adopted.1

end VehicleRunner.Bundle.MavVehicle
