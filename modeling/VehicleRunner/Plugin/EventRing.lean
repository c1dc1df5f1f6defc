import VehicleRunner.Plugin.SmallSwarm

/-! The event ring under every interleaving of the subscribers' slots with the loop:
the loop's state beside the history of what was pushed and popped. -/

namespace VehicleRunner.Plugin.SmallSwarm

open VehicleRunner.Foundation VehicleRunner.Bundle

structure Traced where
  swarm : State
  history : History EventText

/-- What one step adds to the history; the code does not see it. -/
def record (swarm : State) (history : History EventText) : Action → History EventText
  | .slot message =>
    match eventOf message with
    | some event => history.push event
    | none => history
  | .popFront =>
    match swarm.eventBuffer.popFront? with
    | some (event, _) => history.pop swarm.eventBuffer event
    | none => history
  | _ => history

def traceStep (traced : Traced) (action : Action) : Option Traced :=
  (step traced.swarm action).map fun next =>
    { swarm := next, history := record traced.swarm traced.history action }

def Traced.initial (nowMs : Int) : Traced := ⟨SmallSwarm.initial nowMs, .empty⟩

/-- Position of the oldest event in the ring. -/
def Traced.first (traced : Traced) : Nat := traced.history.first traced.swarm.eventBuffer

def Traced.items (traced : Traced) : List EventText := traced.swarm.eventBuffer.items

theorem traceStep_some {traced next : Traced} {action : Action}
    (taken : traceStep traced action = some next) :
    step traced.swarm action = some next.swarm ∧
      next.history = record traced.swarm traced.history action := by
  obtain ⟨swarm, stepped, rfl⟩ := Option.map_eq_some_iff.mp taken
  exact ⟨stepped, rfl⟩

/-- The ring agrees with its history, and the loop stands before a pop only while
the ring holds an event. -/
structure Sound (traced : Traced) : Prop where
  consistent : History.Consistent traced.swarm.eventBuffer traced.history
  filled : traced.swarm.point = .popFront → traced.items ≠ []
  defined : traced.swarm.point ≠ .undefined

theorem initial_sound (nowMs : Int) : Sound (Traced.initial nowMs) where
  consistent := .empty
  filled := by intro here; cases here
  defined := by intro here; cases here

private theorem pushed_ne_nil (eventBuffer : Ring EventText eventRingSize) (event : EventText) :
    (eventBuffer.pushBack event).items ≠ [] := by
  by_cases room : eventBuffer.items.length < eventRingSize
  · rw [Ring.pushBack_room room]
    simp
  · rw [Ring.pushBack_full room]
    have full : 10 ≤ eventBuffer.items.length := Nat.le_of_not_lt room
    intro empty
    have counted := congrArg List.length empty
    simp only [List.length_tail, List.length_append, List.length_singleton, List.length_nil,
      Nat.add_sub_cancel] at counted
    omega

/-- A subscriber can refill the ring under the loop's feet, but never empty it. -/
theorem Sound.step {traced next : Traced} {action : Action} (sound : Sound traced)
    (taken : traceStep traced action = some next) :
    Sound next ∧ History.Later traced.swarm.eventBuffer next.swarm.eventBuffer
      traced.history next.history := by
  obtain ⟨swarm, history⟩ := next
  obtain ⟨stepped, recorded⟩ := traceStep_some taken
  have consistent := sound.consistent
  cases step_cases stepped with
  | slot message =>
    cases kept : eventOf message with
    | none =>
      have unchanged : history = traced.history := recorded.trans (by simp [record, kept])
      rw [slot_other kept, unchanged]
      exact ⟨⟨consistent, sound.filled, sound.defined⟩, .refl _ _⟩
    | some event =>
      have pushed : history = traced.history.push event := recorded.trans (by simp [record, kept])
      rw [slot_event kept, pushed]
      exact ⟨⟨consistent.push event, fun _ => pushed_ne_nil _ event, sound.defined⟩,
        .push consistent event⟩
  | popped _ front =>
    have popped : history = traced.history.pop traced.swarm.eventBuffer _ :=
      recorded.trans (by simp only [record, front]; rfl)
    rw [popped]
    exact ⟨⟨consistent.pop front, nofun, nofun⟩, .pop consistent front⟩
  | undefined here empty =>
    exact absurd (Ring.popFront?_none empty) (sound.filled here)
  | ready _ filled =>
    obtain rfl : history = traced.history := recorded
    exact ⟨⟨consistent, fun _ => filled, nofun⟩, .refl _ _⟩
  -- No other step touches the ring or leads to a pop.
  | _ =>
    obtain rfl : history = traced.history := recorded
    exact ⟨⟨consistent, nofun, nofun⟩, .refl _ _⟩

theorem Sound.run {start final : Traced} {actions : List Action} (sound : Sound start)
    (run : Run (Takes traceStep) start actions final) :
    Sound final ∧ History.Later start.swarm.eventBuffer final.swarm.eventBuffer
      start.history final.history := by
  induction run with
  | start => exact ⟨sound, .refl _ _⟩
  | step _ taken ih =>
    obtain ⟨kept, later⟩ := ih.1.step taken
    exact ⟨kept, ih.2.trans later⟩

/-- Every run of the loop and its subscribers has a history. -/
theorem traced_run {nowMs : Int} {actions : List Action} {swarm : State}
    (run : Run (Takes step) (initial nowMs) actions swarm) :
    ∃ history, Run (Takes traceStep) (Traced.initial nowMs) actions ⟨swarm, history⟩ := by
  induction run with
  | start => exact ⟨.empty, .start⟩
  | @step _ before action next _ taken ih =>
    obtain ⟨history, traced⟩ := ih
    have stepped : step before action = some next := taken
    refine ⟨record before history action, .step traced ?_⟩
    simp only [Takes, traceStep, stepped, Option.map_some]

/-- The loop never takes the front of an empty ring. -/
theorem run_defined {nowMs : Int} {actions : List Action} {swarm : State}
    (run : Run (Takes step) (initial nowMs) actions swarm) : swarm.point ≠ .undefined := by
  obtain ⟨history, traced⟩ := traced_run run
  exact ((initial_sound nowMs).run traced).1.defined

/-- The pushes are the vehicle payloads in the order their slots took the lock. -/
theorem pushed_eq {nowMs : Int} {actions : List Action} {traced : Traced}
    (run : Run (Takes traceStep) (Traced.initial nowMs) actions traced) :
    traced.history.pushed = actions.filterMap fun action =>
      match action with
      | .slot message =>
        if message.header.messageId = ZMQ.msgVehiclePayload then some ⟨message.header, message.payload⟩
        else none
      | _ => none := by
  induction run with
  | start => rfl
  | @step _ before action next _ taken ih =>
    obtain ⟨_, recorded⟩ := traceStep_some taken
    rw [List.filterMap_append, ← ih, recorded]
    cases action with
    | slot message =>
      by_cases payload : message.header.messageId = ZMQ.msgVehiclePayload
      · simp [record, eventOf, payload, History.push]
      · simp [record, eventOf, payload]
    | popFront =>
      simp only [record]
      split <;> simp [History.pop]
    | _ => simp [record]

/-- The ring refines the sequence of vehicle payloads that slots were run with, in every
interleaving: it is the last of them, at most ten; the loop never pops it empty; pops run
through the pushes in order; and an event stays unpopped exactly when ten later ones were
pushed before it was popped, or while it is still held. -/
theorem event_ring_refines (nowMs : Int) (actions : List Action) (traced : Traced)
    (run : Run (Takes traceStep) (Traced.initial nowMs) actions traced) :
    traced.items = traced.history.pushed.drop traced.first ∧
    traced.items.length ≤ 10 ∧ traced.first + traced.items.length = traced.history.pushed.length ∧
    (traced.history.pushed = actions.filterMap fun action =>
      match action with
      | .slot message =>
        if message.header.messageId = ZMQ.msgVehiclePayload then some ⟨message.header, message.payload⟩
        else none
      | _ => none) ∧
    traced.swarm.point ≠ .undefined ∧ (traced.swarm.point = .popFront → traced.items ≠ []) ∧
    traced.history.positions.Pairwise (· < ·) ∧
    (∀ entry ∈ traced.history.popped, traced.history.pushed[entry.1]? = some entry.2) ∧
    ∀ position < traced.history.pushed.length, position ∉ traced.history.positions ↔
      (∃ earlier later passed, actions = earlier ++ later ∧
        Run (Takes traceStep) (Traced.initial nowMs) earlier passed ∧
        position + 10 < passed.history.pushed.length ∧ position ∉ passed.history.positions) ∨
      traced.first ≤ position := by
  obtain ⟨sound, _⟩ := (initial_sound nowMs).run run
  have valid := sound.consistent
  refine ⟨valid.suffix, traced.swarm.eventBuffer.bounded, Nat.sub_add_cancel valid.fits,
    pushed_eq run, sound.defined, sound.filled, valid.increasing, valid.genuine, ?_⟩
  intro position _
  constructor
  · intro unpopped
    rcases valid.unpopped unpopped with held | overrun
    · exact .inr held
    · exact .inl ⟨actions, [], traced, (List.append_nil _).symm, run, overrun, unpopped⟩
  · rintro (⟨earlier, later, passed, split, before, overrun, unpopped⟩ | held)
    · subst split
      obtain ⟨middle, first, rest⟩ := run.split
      have same := first.unique before
      subst same
      obtain ⟨early, _⟩ := (initial_sound nowMs).run first
      exact (early.run rest).2.unpopped early.consistent overrun unpopped
    · exact valid.held held

/-- Eleven payloads, and a pop after them. -/
def overrunning : List Action :=
  List.replicate 11 (.slot (ZmqPublish.frame ZMQ.vehicleIdLeader (.ofStorage (.zeros 32)))) ++
    [.test, .popFront]

/-- The pop takes the second; the first was overwritten and stays unpopped. -/
theorem event_ring_overrun :
    ∃ traced, Run (Takes traceStep) (Traced.initial 0) overrunning traced ∧
      traced.history.positions = [1] ∧ traced.items.length = 9 ∧ 0 ∉ traced.history.positions := by
  have pushes : Run (Takes traceStep) (Traced.initial 0) (overrunning.take 11) _ := execute_run rfl
  have run : Run (Takes traceStep) (Traced.initial 0) overrunning _ := execute_run rfl
  obtain ⟨_, _, _, _, _, _, _, _, unpopped⟩ := event_ring_refines 0 overrunning _ run
  refine ⟨_, run, rfl, rfl, (unpopped 0 (by decide)).mpr (.inl ?_)⟩
  exact ⟨overrunning.take 11, overrunning.drop 11, _, (List.take_append_drop 11 _).symm, pushes,
    by decide, by decide⟩

end VehicleRunner.Plugin.SmallSwarm
