import VehicleRunner.Foundation.Guarding
import VehicleRunner.Bundle.MavVehicle

/-! `Exec`, `Stop`, the destructor and the callbacks of a `MavVehicle_Impl` in any order:
which of them follow a null pointer, told from what came before. -/

namespace VehicleRunner.Bundle.MavVehicle

open VehicleRunner.Foundation

/-- A helper thread is wanted for each connection. -/
def State.wanted (state : State) : Bool := state.config.logWoSd || state.config.planWoSd

/-- The object owns a thread that was never joined. -/
def State.joinable (state : State) : Bool := state.thread.any HelperThread.joinable

/-- The thread owned, and what decides about another one, are the same. -/
def State.Keeps (state next : State) : Prop := next.config = state.config ∧ next.thread = state.thread

/-- The object as a connected callback leaves it. -/
def State.equip (airframe : Option Int) (system : SystemRef) (state : State) : State :=
  { state with
    thread := if state.wanted then some { joinable := true, openedShell := false } else state.thread
    paramFrame := airframe.getD state.paramFrame
    param := some system
    telemetry := some system
    logging := some { system := system, subscribed := true }
    passthru := some { system := system, subscribed := true } }

/-- The disconnected callback drops everything made for the autopilot. -/
def State.release (state : State) : State :=
  { state with param := none, telemetry := none, logging := none, passthru := none, system := none }

namespace Lifecycle

/-- A call or a callback, with the library's side as it finds it. -/
inductive Event where
  | exec (opened : Bool)
  | stop (world : World)
  | newSystem (world : World) (firstAutopilot : Option SystemRef)
  /-- An autopilot is put into `_system`. -/
  | hold (system : SystemRef)
  | isConnected (world : World) (connected : Bool) (airframe : Option Int)
  | destroy (world : World)

def constructed (config : Config) : State := { config := config }

/-- The destructor: `Stop`, and then the members. -/
def destroy (world : World) (state : State) : Except Crash State := do
  let (_, state) ← stop world state
  match state.thread with
  | some thread => if thread.joinable then .error .terminate else return state
  | none => return state

def handle (state : State) : Event → Except Crash State
  | .exec opened => return (exec opened state).2
  | .stop world => do
    let (_, state) ← stop world state
    return state
  | .newSystem world firstAutopilot => onMavOnNewSystem world firstAutopilot state
  | .hold system => return { state with system := some system }
  | .isConnected world connected airframe => do
    let (_, state) ← onMavSystemIsConnected world connected airframe state
    return state
  | .destroy world => destroy world state

def Null (crash : Crash) : Prop := ∃ pointer, crash = .null pointer

/-! ## What the events tell -/

/-- What the events so far come to: an `Exec` since the last `Stop`, the autopilot held,
and a connected callback since the last disconnected one. -/
structure Ledger where
  executed : Bool
  held : Option SystemRef
  equipped : Bool

def Ledger.of (state : State) : Ledger where
  executed := state.mavsdk.isSome
  held := state.system
  equipped := state.logging.isSome && state.passthru.isSome

def Ledger.note (ledger : Ledger) : Event → Ledger
  | .exec _ => { ledger with executed := true }
  | .stop _ => { ledger with executed := false }
  | .newSystem _ _ => ledger
  | .hold system => { ledger with held := some system }
  | .isConnected _ true _ => { ledger with equipped := true }
  | .isConnected _ false _ => { ledger with held := none, equipped := false }
  | .destroy _ => { ledger with executed := false }

/-- `Stop` comes after an `Exec` of its own, and after the connected callback of an
autopilot that is held and connected. -/
def Ledger.Stoppable (ledger : Ledger) (world : World) : Prop :=
  ledger.executed = true ∧
    ∀ system, ledger.held = some system → world.isConnected system = true → ledger.equipped = true

/-- The events come in an order that the object is made for. -/
def Timely (ledger : Ledger) : Event → Prop
  | .exec _ => True
  | .stop world => ledger.Stoppable world
  | .newSystem _ _ => ledger.executed = true
  | .hold _ => True
  | .isConnected _ connected _ =>
    ledger.held.isSome = true ∧ (connected = false → ledger.equipped = true)
  | .destroy world => ledger.Stoppable world

/-! ## Which events follow a null pointer -/

/-- The plugins are told to stop, or one of them is missing. -/
theorem unsubscribe_cases {state : State} {system : SystemRef} (held : state.system = some system) :
    ((Ledger.of state).equipped = true ∧ ∃ logging passthru,
      unsubscribe state = .ok { state with logging := some logging, passthru := some passthru }) ∨
    ((Ledger.of state).equipped = false ∧ ∃ pointer, unsubscribe state = .error (.null pointer)) := by
  cases logging : state.logging with
  | none =>
    refine .inr ⟨by simp [Ledger.of, logging], .logging, ?_⟩
    simp [unsubscribe, held, logging, deref, bind, Except.bind]
  | some first =>
    cases passthru : state.passthru with
    | none =>
      refine .inr ⟨by simp [Ledger.of, passthru], .passthru, ?_⟩
      simp [unsubscribe, held, logging, passthru, deref, bind, Except.bind]
    | some second =>
      refine .inl ⟨by simp [Ledger.of, logging, passthru],
        { first with subscribed := false }, { second with subscribed := false }, ?_⟩
      simp [unsubscribe, held, logging, passthru, deref, bind, Except.bind, pure, Except.pure]

/-- The end of `Stop`, whatever became of the system before. -/
theorem reset_cases {world after : World} {state next : State}
    (reset : stop world state = deref .mavsdk next.mavsdk >>= fun _ =>
      .ok (after, { next with mavsdk := none }))
    (same : Ledger.of next = Ledger.of state) (keeps : state.Keeps next) :
    ((Ledger.of state).executed = true ∧ ∃ after next, stop world state = .ok (after, next) ∧
      Ledger.of next = { Ledger.of state with executed := false } ∧ state.Keeps next) ∨
    ((Ledger.of state).executed = false ∧ ∃ pointer, stop world state = .error (.null pointer)) := by
  rw [← same, reset]
  cases present : next.mavsdk with
  | none => exact .inr ⟨by simp [Ledger.of, present], .mavsdk, rfl⟩
  | some sdk => exact .inl ⟨by simp [Ledger.of, present], after, _, rfl, rfl, keeps⟩

theorem stop_cases (world : World) (state : State) :
    ((Ledger.of state).Stoppable world ∧ ∃ after next, stop world state = .ok (after, next) ∧
      Ledger.of next = { Ledger.of state with executed := false } ∧ state.Keeps next) ∨
    (¬ (Ledger.of state).Stoppable world ∧ ∃ pointer, stop world state = .error (.null pointer)) := by
  cases held : state.system with
  | none =>
    have reset : stop world state = deref .mavsdk state.mavsdk >>= fun _ =>
        .ok (world, { state with mavsdk := none }) := by
      simp [stop, held, pure, Except.pure, bind, Except.bind]
    rcases reset_cases reset rfl ⟨rfl, rfl⟩ with ⟨executed, ran⟩ | ⟨missing, crashed⟩
    · exact .inl ⟨⟨executed, by simp [Ledger.of, held]⟩, ran⟩
    · exact .inr ⟨fun stoppable => by simp [stoppable.1] at missing, crashed⟩
  | some system =>
    cases connected : world.isConnected system with
    | false =>
      have reset : stop world state = deref .mavsdk state.mavsdk >>= fun _ =>
          .ok (world.unsubscribeIsConnected system state.hmavIsConnected,
            { state with mavsdk := none }) := by
        simp [stop, held, connected, pure, Except.pure, bind, Except.bind]
      rcases reset_cases reset rfl ⟨rfl, rfl⟩ with ⟨executed, ran⟩ | ⟨missing, crashed⟩
      · refine .inl ⟨⟨executed, ?_⟩, ran⟩
        intro other same linked
        obtain rfl := Option.some.inj (held.symm.trans same)
        rw [connected] at linked
        cases linked
      · exact .inr ⟨fun stoppable => by simp [stoppable.1] at missing, crashed⟩
    | true =>
      rcases unsubscribe_cases held with ⟨equipped, logging, passthru, told⟩ | ⟨bare, pointer, crashed⟩
      · let next : State := { state with logging := some logging, passthru := some passthru }
        have same : Ledger.of next = Ledger.of state := by
          have there : (state.logging.isSome && state.passthru.isSome) = true := equipped
          rw [Ledger.of, Ledger.of, there]
          rfl
        have reset : stop world state = deref .mavsdk next.mavsdk >>= fun _ =>
            .ok (world.unsubscribeIsConnected system next.hmavIsConnected,
              { next with mavsdk := none }) := by
          simp [stop, held, connected, told, pure, Except.pure, bind, Except.bind, next]
        rcases reset_cases reset same ⟨rfl, rfl⟩ with ⟨executed, ran⟩ | ⟨missing, crashed⟩
        · exact .inl ⟨⟨executed, fun _ _ _ => equipped⟩, ran⟩
        · exact .inr ⟨fun stoppable => by simp [stoppable.1] at missing, crashed⟩
      · refine .inr ⟨fun stoppable => ?_, pointer, ?_⟩
        · have equipped := stoppable.2 system held connected
          rw [bare] at equipped
          cases equipped
        · simp [stop, held, connected, crashed, bind, Except.bind]

/-- The connected callback equips the object, unless it overwrites such a thread. -/
theorem connected_cases (world : World) (airframe : Option Int) {state : State} {system : SystemRef}
    (held : state.system = some system) :
    ((state.wanted && state.joinable) = false ∧
      onMavSystemIsConnected world true airframe state = .ok (world, state.equip airframe system)) ∨
    ((state.wanted && state.joinable) = true ∧
      onMavSystemIsConnected world true airframe state = .error .terminate) := by
  simp only [onMavSystemIsConnected, held, subscribe, deref, bind, Except.bind, pure, Except.pure,
    ↓reduceIte, State.equip, State.joinable]
  cases wanted : state.wanted with
  | false =>
    rw [State.wanted] at wanted
    simp [wanted]
  | true =>
    rw [State.wanted] at wanted
    cases owned : state.thread with
    | none => simp [wanted]
    | some thread => cases joinable : thread.joinable <;> simp [wanted, joinable]

theorem disconnected_cases (world : World) (airframe : Option Int) {state : State} {system : SystemRef}
    (held : state.system = some system) :
    ((Ledger.of state).equipped = true ∧ ∃ after,
      onMavSystemIsConnected world false airframe state = .ok (after, state.release)) ∨
    ((Ledger.of state).equipped = false ∧ ∃ pointer,
      onMavSystemIsConnected world false airframe state = .error (.null pointer)) := by
  rcases unsubscribe_cases held with ⟨equipped, logging, passthru, told⟩ | ⟨bare, pointer, crashed⟩
  · refine .inl ⟨equipped, world.unsubscribeIsConnected system state.hmavIsConnected, ?_⟩
    simp [onMavSystemIsConnected, held, told, deref, bind, Except.bind, pure, Except.pure, State.release]
  · refine .inr ⟨bare, pointer, ?_⟩
    simp [onMavSystemIsConnected, held, crashed, bind, Except.bind]

/-- Everything an event does to the object where it succeeds. -/
structure Handled (state : State) (event : Event) (next : State) : Prop where
  noted : Ledger.of next = (Ledger.of state).note event
  kept : (∀ world airframe, event ≠ .isConnected world true airframe) → state.Keeps next
  equipped : ∀ world airframe, event = .isConnected world true airframe →
    ∃ system, next = state.equip airframe system ∧ (state.wanted && state.joinable) = false
  released : ∀ world, event = .destroy world → state.joinable = false

/-- An event that neither makes a thread nor destroys one. -/
theorem Handled.plain {state next : State} {event : Event}
    (noted : Ledger.of next = (Ledger.of state).note event) (keeps : state.Keeps next)
    (connects : ∀ world airframe, event ≠ .isConnected world true airframe)
    (destroys : ∀ world, event ≠ .destroy world) : Handled state event next where
  noted := noted
  kept _ := keeps
  equipped world airframe same := absurd same (connects world airframe)
  released world same := absurd same (destroys world)

/-- A timely event succeeds, or ends the process over a thread that was never joined; any
other follows a null pointer. -/
theorem handle_cases (state : State) (event : Event) :
    (Timely (Ledger.of state) event ∧
      ((∃ next, handle state event = .ok next ∧ Handled state event next) ∨
        (handle state event = .error .terminate ∧ state.joinable = true))) ∨
    (¬ Timely (Ledger.of state) event ∧ ∃ pointer, handle state event = .error (.null pointer)) := by
  cases event with
  | exec opened =>
    refine .inl ⟨trivial, .inl ⟨_, rfl, .plain ?_ ?_ (by simp) (by simp)⟩⟩
    · cases opened <;> rfl
    · cases opened <;> exact ⟨rfl, rfl⟩
  | hold system =>
    exact .inl ⟨trivial, .inl ⟨_, rfl, .plain rfl ⟨rfl, rfl⟩ (by simp) (by simp)⟩⟩
  | newSystem world firstAutopilot =>
    rcases onMavOnNewSystem_cases world firstAutopilot state with ⟨executed, ran⟩ | ⟨missing, crashed⟩
    · exact .inl ⟨executed, .inl ⟨state, ran, .plain rfl ⟨rfl, rfl⟩ (by simp) (by simp)⟩⟩
    · refine .inr ⟨?_, _, crashed⟩
      intro executed
      simp [Timely, Ledger.of, missing] at executed
  | stop world =>
    rcases stop_cases world state with
      ⟨stoppable, after, next, ran, same, keeps⟩ | ⟨untimely, pointer, crashed⟩
    · refine .inl ⟨stoppable, .inl ⟨next, ?_, .plain same keeps (by simp) (by simp)⟩⟩
      simp [handle, ran, bind, Except.bind, pure, Except.pure]
    · refine .inr ⟨untimely, pointer, ?_⟩
      simp [handle, crashed, bind, Except.bind]
  | isConnected world connected airframe =>
    cases held : state.system with
    | none =>
      refine .inr ⟨?_, .system, ?_⟩
      · intro timely
        have there := timely.1
        simp [Ledger.of, held] at there
      · cases connected <;>
          simp [handle, onMavSystemIsConnected, held, deref, bind, Except.bind, pure, Except.pure]
    | some system =>
      have there : (Ledger.of state).held.isSome = true := by simp [Ledger.of, held]
      cases connected with
      | true =>
        rcases connected_cases world airframe held with ⟨alone, ran⟩ | ⟨owned, ended⟩
        · refine .inl ⟨⟨there, by simp⟩, .inl ⟨state.equip airframe system, ?_, rfl,
            fun other => absurd rfl (other world airframe), ?_, by simp⟩⟩
          · simp [handle, ran, bind, Except.bind, pure, Except.pure]
          · intro _ _ same
            cases same
            exact ⟨system, rfl, alone⟩
        · refine .inl ⟨⟨there, by simp⟩, .inr ⟨?_, (Bool.and_eq_true_iff.mp owned).2⟩⟩
          simp [handle, ended, bind, Except.bind]
      | false =>
        rcases disconnected_cases world airframe held with ⟨equipped, after, ran⟩ | ⟨bare, pointer, crashed⟩
        · refine .inl ⟨⟨there, fun _ => equipped⟩, .inl ⟨state.release, ?_,
            .plain rfl ⟨rfl, rfl⟩ (by simp) (by simp)⟩⟩
          simp [handle, ran, bind, Except.bind, pure, Except.pure]
        · refine .inr ⟨?_, pointer, by simp [handle, crashed, bind, Except.bind]⟩
          intro timely
          have equipped := timely.2 rfl
          rw [bare] at equipped
          cases equipped
  | destroy world =>
    rcases stop_cases world state with
      ⟨stoppable, after, next, ran, same, keeps⟩ | ⟨untimely, pointer, crashed⟩
    · refine .inl ⟨stoppable, ?_⟩
      have rest : handle state (.destroy world) =
          if state.joinable then .error .terminate else .ok next := by
        simp only [handle, destroy, ran, bind, Except.bind, State.joinable, ← keeps.2]
        cases next.thread with
        | none => rfl
        | some thread => rfl
      rw [rest]
      cases joinable : state.joinable with
      | false => exact .inl ⟨next, rfl, same, fun _ => keeps, by simp, fun _ _ => joinable⟩
      | true => exact .inr ⟨rfl, rfl⟩
    · refine .inr ⟨untimely, pointer, ?_⟩
      simp [handle, destroy, crashed, bind, Except.bind]

theorem handle_handled {state next : State} {event : Event} (ran : handle state event = .ok next) :
    Handled state event next := by
  rcases handle_cases state event with ⟨_, ⟨other, also, handled⟩ | ⟨ended, _⟩⟩ | ⟨_, pointer, crashed⟩
  · obtain rfl := Except.ok.inj (also.symm.trans ran)
    exact handled
  · cases ended.symm.trans ran
  · cases crashed.symm.trans ran

/-- A thread that is not there, or was joined, ends nothing. -/
theorem handle_terminate {state : State} {event : Event}
    (ended : handle state event = .error .terminate) : state.joinable = true := by
  rcases handle_cases state event with ⟨_, ⟨next, ran, _⟩ | ⟨_, joinable⟩⟩ | ⟨_, pointer, crashed⟩
  · cases ended.symm.trans ran
  · exact joinable
  · cases ended.symm.trans crashed

/-- Exactly the events that are not timely follow a null pointer. -/
theorem timely_iff (state : State) (event : Event) :
    Timely (Ledger.of state) event ↔ ∀ failure, handle state event = .error failure → ¬ Null failure := by
  rcases handle_cases state event with ⟨timely, ran⟩ | ⟨untimely, pointer, crashed⟩
  · refine ⟨fun _ failure failed null => ?_, fun _ => timely⟩
    rcases ran with ⟨next, succeeded, _⟩ | ⟨ended, _⟩
    · rw [succeeded] at failed
      cases failed
    · rw [ended] at failed
      obtain ⟨pointer, same⟩ := null
      rw [← Except.error.inj failed] at same
      cases same
  · exact ⟨fun timely => absurd timely untimely, fun spared => absurd ⟨pointer, rfl⟩ (spared _ crashed)⟩

/-- From any state and through any events up to the destructor, no null pointer is
followed exactly if each event that is reached is timely after those before it. -/
theorem null_safe_iff (start : State) (events : List Event) (world : World) :
    Never handle start (events ++ [.destroy world]) Null ↔
      ∀ earlier event later before, events ++ [.destroy world] = earlier ++ event :: later →
        Run (Succeeds handle) start earlier before →
        Timely (earlier.foldl Ledger.note (Ledger.of start)) event := by
  refine (never_iff timely_iff).trans ?_
  have seen {earlier : List Event} {before : State} (run : Run (Succeeds handle) start earlier before) :
      Ledger.of before = earlier.foldl Ledger.note (Ledger.of start) :=
    run.observed fun _ _ _ ran => (handle_handled ran).noted
  constructor
  · intro timely earlier event later before split run
    rw [← seen run]
    exact timely earlier event later before split run
  · intro timely earlier event later before split run
    have meets := timely earlier event later before split run
    rw [← seen run] at meets
    exact meets

/-- A library that reports no connection. -/
def quietWorld : World where
  isConnected := fun _ => false
  systemId := fun _ => 1
  telemetry := fun _ => .zeros
  callbacks := []

/-- The calls come in any order, the destructor last; a notification comes after an `Exec`,
and a connection callback while an autopilot is held. -/
def Orderly (ledger : Ledger) : List Event → Prop
  | [] => True
  | .destroy _ :: _ => False
  | .newSystem world firstAutopilot :: later =>
    ledger.executed = true ∧ Orderly (ledger.note (.newSystem world firstAutopilot)) later
  | .isConnected world connected airframe :: later =>
    ledger.held.isSome = true ∧ Orderly (ledger.note (.isConnected world connected airframe)) later
  | event :: later => Orderly (ledger.note event) later

/-- The destructor runs `Stop` once more after an explicit one. -/
theorem destroyed_null :
    ¬ ∀ (config : Config) (events : List Event) (world : World),
      Orderly (Ledger.of (constructed config)) events →
      Never handle (constructed config) (events ++ [.destroy world]) Null := by
  intro spared
  have started : Run (Succeeds handle) (constructed ⟨"udp://:14550", false, false⟩)
      ([] ++ [.exec true] ++ [.stop quietWorld]) _ := .step (.step .start rfl) rfl
  exact spared _ [.exec true, .stop quietWorld] quietWorld trivial _ (.destroy quietWorld) [] _ rfl
    started (.null .mavsdk) rfl ⟨.mavsdk, rfl⟩

end Lifecycle

end VehicleRunner.Bundle.MavVehicle
