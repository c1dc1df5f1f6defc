import VehicleRunner.Bundle.MavLifecycle

/-! The log stream of a `MavVehicle_Impl`: subscribed by a connected callback, given up by a
disconnected one or a `Stop`, and what the slots are called with in between. -/

namespace VehicleRunner.Bundle.MavVehicle

open VehicleRunner.Foundation

/-- The log stream is subscribed on the logging plugin. -/
def State.logSubscribed (state : State) : Bool := state.logging.any Plugin.subscribed

namespace Streaming

/-- A slot of `_sigLogStreamingArrived`, and the log it is called with. -/
structure LogCall where
  slot : Nat
  log : List Byte
  deriving DecidableEq

/-- What happens to the object, a slot connected to its signal, or a piece of the log. -/
inductive Event where
  | lifecycle (event : Lifecycle.Event)
  | connect (slot : Nat)
  | logStreamingRaw (data : String)

structure Vehicle where
  state : State
  slots : List Nat
  calls : List LogCall

/-- The library is there to call back, and was asked to. -/
def Vehicle.listens (vehicle : Vehicle) : Bool :=
  vehicle.state.mavsdk.isSome && vehicle.state.logSubscribed

section

-- The library's decoder.
variable (base64Decode : String → List Byte)

/-- Nothing is decoded for no slots, and nothing is fired for an empty log. -/
def onMavLogStreamingRaw (slots : List Nat) (data : String) : List LogCall :=
  if slots.length > 0 then
    let log := base64Decode data
    if log.length > 0 then slots.map fun slot => ⟨slot, log⟩ else []
  else []

def happens (vehicle : Vehicle) : Event → Except Crash Vehicle
  | .lifecycle event => do
    let state ← Lifecycle.handle vehicle.state event
    return { vehicle with state := state }
  | .connect slot => return { vehicle with slots := vehicle.slots ++ [slot] }
  | .logStreamingRaw data =>
    let calls :=
      if vehicle.listens then onMavLogStreamingRaw base64Decode vehicle.slots data else []
    return { vehicle with calls := vehicle.calls ++ calls }

end

/-! ## What the events tell -/

/-- An `Exec` since the last `Stop`, the autopilot held, and a connected callback that nothing
has undone. -/
structure Watch where
  executed : Bool
  held : Option SystemRef
  listening : Bool

def Watch.of (state : State) : Watch := ⟨state.mavsdk.isSome, state.system, state.logSubscribed⟩

/-- `Stop` gives the stream up only for an autopilot that is held and connected. -/
def Watch.stopped (watch : Watch) (world : World) : Watch where
  executed := false
  held := watch.held
  listening := watch.listening && !watch.held.any world.isConnected

def Watch.note (watch : Watch) : Lifecycle.Event → Watch
  | .exec _ => { watch with executed := true }
  | .stop world => watch.stopped world
  | .newSystem _ _ => watch
  | .hold system => { watch with held := some system }
  | .isConnected _ true _ => { watch with listening := true }
  | .isConnected _ false _ => { watch with held := none, listening := false }
  | .destroy world => watch.stopped world

/-- The calls owed for the events from here on: each slot connected is owed each log that
comes while one is listened to and does not decode to nothing. -/
def owed (base64Decode : String → List Byte) (watch : Watch) (slots : List Nat) :
    List Event → List LogCall
  | [] => []
  | .lifecycle event :: later => owed base64Decode (watch.note event) slots later
  | .connect slot :: later => owed base64Decode watch (slots ++ [slot]) later
  | .logStreamingRaw data :: later =>
    (if watch.executed = true ∧ watch.listening = true ∧ base64Decode data ≠ [] then
      slots.map fun slot => ⟨slot, base64Decode data⟩
    else []) ++ owed base64Decode watch slots later

/-- The stream is given up, and nothing else that is watched. -/
theorem unsubscribe_watch {state next : State} {system : SystemRef}
    (held : state.system = some system) (ran : unsubscribe state = .ok next) :
    Watch.of next = { Watch.of state with listening := false } := by
  simp only [unsubscribe, held, Option.isSome_some, ↓reduceIte, bind, Except.bind] at ran
  cases logging : state.logging with
  | none => simp [logging, deref] at ran
  | some first =>
    cases passthru : state.passthru with
    | none => simp [logging, passthru, deref] at ran
    | some second =>
      simp only [logging, passthru, deref, pure, Except.pure, Except.ok.injEq] at ran
      subst ran
      simp [Watch.of, State.logSubscribed, held]

/-- The end of `Stop`, whatever became of the stream before. -/
theorem reset_watch {world after : World} {state next : State}
    (ended : (deref .mavsdk state.mavsdk >>= fun _ =>
      Except.ok (world, { state with mavsdk := none })) = .ok (after, next)) :
    Watch.of next = { Watch.of state with executed := false } := by
  cases present : state.mavsdk with
  | none => simp [present, deref, bind, Except.bind] at ended
  | some sdk =>
    simp only [present, deref, bind, Except.bind, Except.ok.injEq, Prod.mk.injEq] at ended
    obtain ⟨_, rfl⟩ := ended
    rfl

theorem stop_watch {world after : World} {state next : State}
    (ran : stop world state = .ok (after, next)) : Watch.of next = (Watch.of state).stopped world := by
  cases held : state.system with
  | none =>
    simp only [stop, held, pure, Except.pure] at ran
    rw [reset_watch ran, Watch.stopped]
    simp [Watch.of, held]
  | some system =>
    cases connected : world.isConnected system with
    | false =>
      simp only [stop, held, connected, pure, Except.pure, Bool.false_eq_true, ↓reduceIte] at ran
      rw [reset_watch ran, Watch.stopped]
      simp [Watch.of, held, connected]
    | true =>
      cases told : unsubscribe state with
      | error crash => simp [stop, held, connected, told, bind, Except.bind] at ran
      | ok middle =>
        simp only [stop, held, connected, told, pure, Except.pure, ↓reduceIte] at ran
        rw [reset_watch ran, unsubscribe_watch held told, Watch.stopped]
        simp [Watch.of, held, connected]

/-- What is watched is told by the events alone. -/
theorem handle_watch {state next : State} {event : Lifecycle.Event}
    (ran : Lifecycle.handle state event = .ok next) : Watch.of next = (Watch.of state).note event := by
  cases event with
  | exec opened =>
    cases ran
    cases opened <;> rfl
  | hold system =>
    cases ran
    rfl
  | newSystem world firstAutopilot =>
    rcases onMavOnNewSystem_cases world firstAutopilot state with ⟨_, same⟩ | ⟨_, crashed⟩
    · cases same.symm.trans ran
      rfl
    · cases crashed.symm.trans ran
  | stop world =>
    cases stopped : stop world state with
    | error crash => simp [Lifecycle.handle, stopped, bind, Except.bind] at ran
    | ok result =>
      simp only [Lifecycle.handle, stopped, bind, Except.bind, pure, Except.pure, Except.ok.injEq] at ran
      subst ran
      exact stop_watch stopped
  | destroy world =>
    cases stopped : stop world state with
    | error crash => simp [Lifecycle.handle, Lifecycle.destroy, stopped, bind, Except.bind] at ran
    | ok result =>
      have same : next = result.2 := by
        simp only [Lifecycle.handle, Lifecycle.destroy, stopped, bind, Except.bind] at ran
        split at ran
        · split at ran
          · cases ran
          · exact (Except.ok.inj ran).symm
        · exact (Except.ok.inj ran).symm
      rw [same]
      exact stop_watch stopped
  | isConnected world connected airframe =>
    cases held : state.system with
    | none =>
      cases connected <;>
        simp [Lifecycle.handle, onMavSystemIsConnected, held, deref, bind, Except.bind, pure, Except.pure] at ran
    | some system =>
      cases connected with
      | true =>
        obtain ⟨other, rfl, _⟩ := (Lifecycle.handle_handled ran).equipped world airframe rfl
        simp [Watch.of, Watch.note, State.equip, State.logSubscribed]
      | false =>
        rcases Lifecycle.disconnected_cases world airframe held with
          ⟨_, after, released⟩ | ⟨_, pointer, crashed⟩
        · simp only [Lifecycle.handle, released, bind, Except.bind, pure, Except.pure, Except.ok.injEq] at ran
          subst ran
          simp [Watch.of, Watch.note, State.release, State.logSubscribed]
        · simp [Lifecycle.handle, crashed, bind, Except.bind] at ran

/-! ## Whole runs -/

variable {base64Decode : String → List Byte}

/-- The callback looks at the slots first, which makes no difference to what is called. -/
theorem onMavLogStreamingRaw_calls (slots : List Nat) (data : String) :
    onMavLogStreamingRaw base64Decode slots data =
      if base64Decode data ≠ [] then slots.map fun slot => ⟨slot, base64Decode data⟩ else [] := by
  unfold onMavLogStreamingRaw
  cases slots with
  | nil => simp
  | cons slot slots => simp only [List.length_pos_iff, ne_eq, reduceCtorEq, not_false_eq_true, ↓reduceIte]

/-- What is called and what is owed, before an event and after it. -/
theorem happens_owed {vehicle next : Vehicle} {event : Event}
    (taken : happens base64Decode vehicle event = .ok next) (later : List Event) :
    next.calls ++ owed base64Decode (Watch.of next.state) next.slots later =
      vehicle.calls ++ owed base64Decode (Watch.of vehicle.state) vehicle.slots (event :: later) := by
  cases event with
  | lifecycle event =>
    cases ran : Lifecycle.handle vehicle.state event with
    | error crash => simp [happens, ran, bind, Except.bind] at taken
    | ok state =>
      simp only [happens, ran, bind, Except.bind, pure, Except.pure, Except.ok.injEq] at taken
      subst taken
      rw [owed, ← handle_watch ran]
  | connect slot =>
    cases taken
    rfl
  | logStreamingRaw data =>
    cases taken
    rw [owed, List.append_assoc]
    by_cases listens : vehicle.listens = true
    · obtain ⟨executed, listening⟩ := Bool.and_eq_true_iff.mp listens
      simp only [listens, ↓reduceIte, onMavLogStreamingRaw_calls, Watch.of, executed, listening, true_and]
    · have deaf : ¬ ((Watch.of vehicle.state).executed = true ∧ (Watch.of vehicle.state).listening = true ∧
          base64Decode data ≠ []) := fun listening =>
        listens (Bool.and_eq_true_iff.mpr ⟨listening.1, listening.2.1⟩)
      rw [if_neg listens, if_neg deaf]

theorem run_owed {start vehicle : Vehicle} {events : List Event}
    (run : Run (Succeeds (happens base64Decode)) start events vehicle) (later : List Event) :
    vehicle.calls ++ owed base64Decode (Watch.of vehicle.state) vehicle.slots later =
      start.calls ++ owed base64Decode (Watch.of start.state) start.slots (events ++ later) := by
  induction run generalizing later with
  | start => rfl
  | step _ taken ih => rw [happens_owed taken, ih, List.append_assoc, List.singleton_append]

/-- Whatever is called and called back in between, the slots connected by then are called
with each piece of the log that comes while the stream is subscribed, in order, and with
nothing else. -/
theorem logs_streamed {start vehicle : Vehicle} {events : List Event}
    (run : Run (Succeeds (happens base64Decode)) start events vehicle) :
    vehicle.calls = start.calls ++ owed base64Decode (Watch.of start.state) start.slots events := by
  have whole := run_owed run []
  rwa [owed, List.append_nil, List.append_nil] at whole

/-- A piece of the log before the disconnected callback, and one after it. -/
theorem logs_streamed_connected :
    ∃ vehicle, Run (Succeeds (happens fun _ => [1]))
        ⟨Lifecycle.constructed ⟨"udp://:14550", false, false⟩, [], []⟩
        [.lifecycle (.exec true), .lifecycle (.hold 1), .connect 5,
          .lifecycle (.isConnected Lifecycle.quietWorld true none), .logStreamingRaw "AQ==",
          .lifecycle (.isConnected Lifecycle.quietWorld false none), .logStreamingRaw "AQ=="]
        vehicle ∧
      vehicle.calls = [⟨5, [1]⟩] := by
  have run : Run (Succeeds (happens fun _ => [1]))
      ⟨Lifecycle.constructed ⟨"udp://:14550", false, false⟩, [], []⟩
      [.lifecycle (.exec true), .lifecycle (.hold 1), .connect 5,
        .lifecycle (.isConnected Lifecycle.quietWorld true none), .logStreamingRaw "AQ==",
        .lifecycle (.isConnected Lifecycle.quietWorld false none), .logStreamingRaw "AQ=="] _ :=
    foldlM_run rfl
  exact ⟨_, run, logs_streamed run⟩

end Streaming

end VehicleRunner.Bundle.MavVehicle
