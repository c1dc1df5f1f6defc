import VehicleRunner.Bundle.MavLifecycle

/-! The thread that sends shell commands for a `MavVehicle_Impl`, beside the events of its
lifecycle: it opens its shell on whatever `_system` holds by then, and is never joined. -/

namespace VehicleRunner.Bundle.MavVehicle.Helper

open VehicleRunner.Foundation

inductive Event where
  | lifecycle (event : Lifecycle.Event)
  /-- The helper gets to open its shell. -/
  | shell

inductive Failure where
  | object (crash : Crash)
  /-- The helper followed `_system` after it was reset. -/
  | helper
  deriving DecidableEq

def openShell (state : State) : Except Failure State :=
  match state.thread with
  | none => .ok state
  | some thread =>
    if thread.openedShell then .ok state
    else match state.system with
      | none => .error .helper
      | some _ => .ok { state with thread := some { thread with openedShell := true } }

def handle (state : State) : Event → Except Failure State
  | .lifecycle event =>
    match Lifecycle.handle state event with
    | .ok next => .ok next
    | .error crash => .error (.object crash)
  | .shell => openShell state

/-- A joinable thread object was overwritten or destroyed, or its thread followed null. -/
def Lost (failure : Failure) : Prop := failure = .object .terminate ∨ failure = .helper

/-- The object itself followed a null pointer. -/
def Null (failure : Failure) : Prop := ∃ pointer, failure = .object (.null pointer)

/-- The connected callback is delivered. -/
def Connects (event : Event) : Prop :=
  ∃ world airframe, event = .lifecycle (.isConnected world true airframe)

theorem lost_or_null (failure : Failure) : Lost failure ∨ Null failure := by
  cases failure with
  | helper => exact .inl (.inr rfl)
  | object crash =>
    cases crash with
    | terminate => exact .inl (.inl rfl)
    | null pointer => exact .inr ⟨pointer, rfl⟩

theorem handle_lifecycle {state next : State} {event : Lifecycle.Event}
    (ran : handle state (.lifecycle event) = .ok next) : Lifecycle.handle state event = .ok next := by
  simp only [handle] at ran
  cases handled : Lifecycle.handle state event with
  | ok other =>
    rw [handled] at ran
    exact congrArg Except.ok (Except.ok.inj ran)
  | error crash =>
    rw [handled] at ran
    cases ran

/-- The shell is opened once, on a system, and changes neither who owns the thread nor
whether another is wanted. -/
theorem openShell_keeps {state next : State} (ran : openShell state = .ok next) :
    next.wanted = state.wanted ∧ next.joinable = state.joinable ∧
      (state.thread = none → next.thread = none) := by
  unfold openShell at ran
  cases owned : state.thread with
  | none =>
    rw [owned] at ran
    obtain rfl := Except.ok.inj ran
    exact ⟨rfl, rfl, fun _ => owned⟩
  | some thread =>
    simp only [owned] at ran
    by_cases opened : thread.openedShell = true
    · rw [if_pos opened] at ran
      obtain rfl := Except.ok.inj ran
      exact ⟨rfl, rfl, nofun⟩
    · rw [if_neg opened] at ran
      cases held : state.system with
      | none =>
        rw [held] at ran
        cases ran
      | some system =>
        rw [held] at ran
        obtain rfl := Except.ok.inj ran
        exact ⟨rfl, by simp [State.joinable, owned], nofun⟩

/-- Without a connected callback no thread is ever made. -/
theorem handle_threadless {state next : State} {event : Event} (bare : state.thread = none)
    (quiet : ¬ Connects event) (ran : handle state event = .ok next) : next.thread = none := by
  cases event with
  | shell => exact (openShell_keeps ran).2.2 bare
  | lifecycle event =>
    have keeps := (Lifecycle.handle_handled (handle_lifecycle ran)).kept
      fun world airframe same => quiet ⟨world, airframe, congrArg Event.lifecycle same⟩
    exact keeps.2.trans bare

/-- An object without a thread loses none. -/
theorem handle_lost {state : State} {event : Event} {failure : Failure} (bare : state.thread = none)
    (failed : handle state event = .error failure) : ¬ Lost failure := by
  cases event with
  | shell =>
    rw [handle, openShell, bare] at failed
    cases failed
  | lifecycle event =>
    simp only [handle] at failed
    cases ran : Lifecycle.handle state event with
    | ok next =>
      rw [ran] at failed
      cases failed
    | error crash =>
      rw [ran] at failed
      obtain rfl := Except.error.inj failed
      rintro (ended | helper)
      · rw [Failure.object.inj ended] at ran
        have joinable := Lifecycle.handle_terminate ran
        simp [State.joinable, bare] at joinable
      · cases helper

/-- A joinable thread stays one until the object is destroyed, which it does not survive. -/
theorem handle_joinable {state next : State} {event : Event} (wanted : state.wanted = true)
    (ran : handle state event = .ok next) :
    next.wanted = true ∧ (state.joinable = true ∨ Connects event → next.joinable = true) ∧
      (∀ world, event = .lifecycle (.destroy world) → state.joinable = false) := by
  cases event with
  | shell =>
    obtain ⟨same, joinable, _⟩ := openShell_keeps ran
    refine ⟨same.trans wanted, ?_, nofun⟩
    rintro (owned | ⟨_, _, impossible⟩)
    · exact joinable.trans owned
    · cases impossible
  | lifecycle event =>
    have handled := Lifecycle.handle_handled (handle_lifecycle ran)
    have released (world : World) (same : Event.lifecycle event = .lifecycle (.destroy world)) :
        state.joinable = false := handled.released world (Event.lifecycle.inj same)
    by_cases connects : ∃ world airframe, event = .isConnected world true airframe
    · obtain ⟨world, airframe, same⟩ := connects
      obtain ⟨_, rfl, _⟩ := handled.equipped world airframe same
      refine ⟨wanted, fun _ => ?_, released⟩
      simp [State.equip, State.joinable, wanted]
    · have keeps := handled.kept fun world airframe same => connects ⟨world, airframe, same⟩
      refine ⟨?_, ?_, released⟩
      · rw [State.wanted, keeps.1]
        exact wanted
      · rintro (owned | ⟨world, airframe, same⟩)
        · rw [State.joinable, keeps.2]
          exact owned
        · exact absurd ⟨world, airframe, Event.lifecycle.inj same⟩ connects

/-- Through events without a connected callback there is never a thread. -/
theorem run_threadless {start before : State} {earlier : List Event}
    (run : Run (Succeeds handle) start earlier before) (bare : start.thread = none)
    (quiet : ∀ event ∈ earlier, ¬ Connects event) : before.thread = none := by
  induction run with
  | start => exact bare
  | step _ ran ih =>
    have sofar := ih fun event member => quiet event (List.mem_append_left _ member)
    exact handle_threadless sofar (quiet _ (by simp)) ran

/-- From the first connected callback on, there is a joinable thread. -/
theorem run_joinable {start before : State} {earlier : List Event}
    (run : Run (Succeeds handle) start earlier before) (wanted : start.wanted = true) :
    before.wanted = true ∧ ((∃ event ∈ earlier, Connects event) → before.joinable = true) := by
  induction run with
  | start =>
    refine ⟨wanted, ?_⟩
    rintro ⟨_, member, _⟩
    cases member
  | step _ ran ih =>
    obtain ⟨still, joinable⟩ := ih
    obtain ⟨next, grows, _⟩ := handle_joinable still ran
    refine ⟨next, ?_⟩
    rintro ⟨event, member, connects⟩
    rcases List.mem_append.mp member with before | last
    · exact grows (.inl (joinable ⟨event, before, connects⟩))
    · obtain rfl := List.mem_singleton.mp last
      exact grows (.inr connects)

/-- No thread is lost where no connected callback is delivered, and otherwise one is in
every run through the destructor that follows no null pointer before. -/
theorem helper_joined_iff (config : Config) (events : List Event) (world : World)
    (wanted : (config.logWoSd || config.planWoSd) = true) :
    ((∀ event ∈ events, ¬ Connects event) →
      Never handle (Lifecycle.constructed config) (events ++ [.lifecycle (.destroy world)]) Lost) ∧
    (Never handle (Lifecycle.constructed config) (events ++ [.lifecycle (.destroy world)]) Null →
      Never handle (Lifecycle.constructed config) (events ++ [.lifecycle (.destroy world)]) Lost →
      ∀ event ∈ events, ¬ Connects event) := by
  constructor
  · intro quiet earlier event later before split run failure failed
    refine handle_lost (run_threadless run rfl ?_) failed
    intro other member
    have listed : other ∈ events ++ [.lifecycle (.destroy world)] := by
      rw [split]
      exact List.mem_append_left _ member
    rcases List.mem_append.mp listed with among | last
    · exact quiet other among
    · obtain rfl := List.mem_singleton.mp last
      rintro ⟨_, _, same⟩
      cases same
  · intro spared kept event member connects
    -- Each way to fail is ruled out, so the run goes through the destructor.
    obtain ⟨final, run⟩ := never_runs fun earlier event later before split run failure failed _ =>
      (lost_or_null failure).elim (kept earlier event later before split run failure failed)
        (spared earlier event later before split run failure failed)
    obtain ⟨middle, earlier, destroyed⟩ := run.last
    obtain ⟨still, joinable⟩ := run_joinable earlier wanted
    have joined := (handle_joinable still destroyed).2.2 world rfl
    rw [joinable ⟨event, member, connects⟩] at joined
    cases joined

/-- An autopilot that is held and never connects. -/
theorem helper_joined_unconnected :
    Never handle (Lifecycle.constructed ⟨"udp://:14550", true, false⟩)
      ([.lifecycle (.exec true), .lifecycle (.hold 0)] ++ [.lifecycle (.destroy Lifecycle.quietWorld)]) Lost := by
  refine (helper_joined_iff ⟨"udp://:14550", true, false⟩ [.lifecycle (.exec true), .lifecycle (.hold 0)]
    Lifecycle.quietWorld rfl).1 ?_
  rintro event member ⟨_, _, rfl⟩
  simp at member

/-- Autopilots are held, and told to be connected or not while one is; the helper goes on
when it gets to. -/
def Reconnects (held : Bool) : List Event → Prop
  | [] => True
  | .shell :: later => Reconnects held later
  | .lifecycle (.hold _) :: later => Reconnects true later
  | .lifecycle (.isConnected _ connected _) :: later => held = true ∧ Reconnects connected later
  | .lifecycle _ :: _ => False

/-- One connection, and the destructor finds the helper's thread unjoined. -/
theorem helper_lost :
    ¬ ∀ (config : Config) (events : List Event) (world : World),
      (config.logWoSd || config.planWoSd) = true → Reconnects false events →
      Never handle (Lifecycle.constructed config)
        (.lifecycle (.exec true) :: events ++ [.lifecycle (.destroy world)]) Lost := by
  intro joined
  have connected : Run (Succeeds handle) (Lifecycle.constructed ⟨"udp://:14550", true, false⟩)
      ([] ++ [.lifecycle (.exec true)] ++ [.lifecycle (.hold 0)] ++
        [.lifecycle (.isConnected Lifecycle.quietWorld true none)]) _ :=
    .step (.step (.step .start rfl) rfl) rfl
  exact joined _ [.lifecycle (.hold 0), .lifecycle (.isConnected Lifecycle.quietWorld true none)]
    Lifecycle.quietWorld rfl ⟨rfl, trivial⟩ _ (.lifecycle (.destroy Lifecycle.quietWorld)) [] _ rfl
    connected (.object .terminate) rfl (.inl rfl)

end VehicleRunner.Bundle.MavVehicle.Helper
