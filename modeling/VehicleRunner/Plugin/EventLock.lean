import VehicleRunner.Foundation.Mutex
import VehicleRunner.Foundation.Simulation
import VehicleRunner.Plugin.EventRing

/-! `_event_buffer_lock` taken and given back: within it the loop copies the front of the
ring and pops it, and a slot pushes, in steps of their own; the loop's test takes no lock. -/

namespace VehicleRunner.Plugin.SmallSwarm

open VehicleRunner.Foundation VehicleRunner.Bundle

/-- A thread that takes the lock: the loop's, or the one a subscriber runs its slot on. -/
inductive Holder where
  | run
  | slot (subscriber : Nat)
  deriving DecidableEq

/-- Where the loop stands in its locked section. -/
inductive Section where
  | outside | front | popFront | unlock
  deriving DecidableEq

/-- Where a subscriber stands in its slot, with the message the slot was called with. -/
inductive Slot where
  | idle
  | lock (message : ZMQ.Message)
  | pushBack (message : ZMQ.Message)
  | unlock
  deriving DecidableEq

def Slot.locked : Slot → Bool
  | .pushBack _ | .unlock => true
  | .idle | .lock _ => false

structure Locked where
  swarm : State
  eventBufferLock : Option Holder
  within : Section
  slots : Nat → Slot

namespace Locked

/-- Nobody holds or wants the lock. -/
def atRest (swarm : State) : Locked := ⟨swarm, none, .outside, fun _ => .idle⟩

def initial (nowMs : Int) : Locked := atRest (SmallSwarm.initial nowMs)

inductive Action where
  | lock
  | front
  | popFront
  | unlock
  | slotCalled (subscriber : Nat) (message : ZMQ.Message)
  | slotLock (subscriber : Nat)
  | slotPush (subscriber : Nat) (message : ZMQ.Message)
  | slotUnlock (subscriber : Nat)
  | run (action : SmallSwarm.Action)
  deriving DecidableEq

def front? (eventBuffer : Ring EventText eventRingSize) : Option EventText :=
  eventBuffer.popFront?.map Prod.fst

/-- `event_text = _event_buffer.front()`. -/
def readFront (locked : Locked) : Locked :=
  match locked.swarm.eventBuffer.popFront? with
  | some (event, _) =>
    { locked with swarm := { locked.swarm with eventText := some event }, within := .popFront }
  | none => { locked with swarm := { locked.swarm with point := .undefined } }

/-- `_event_buffer.pop_front()`. -/
def dropFront (locked : Locked) : Locked :=
  match locked.swarm.eventBuffer.popFront? with
  | some (_, rest) =>
    { locked with
      swarm := { locked.swarm with eventBuffer := rest, point := .clock }
      within := .unlock }
  | none => { locked with swarm := { locked.swarm with point := .undefined } }

def pushEvent (locked : Locked) (message : ZMQ.Message) : Locked :=
  { locked with swarm := { locked.swarm with
    eventBuffer := slotZmqMessageArrived locked.swarm.eventBuffer message } }

def setSlot (locked : Locked) (subscriber : Nat) (slot : Slot) : Locked :=
  { locked with slots := Function.update locked.slots subscriber slot }

/-- What the loop does without the lock. -/
def lockFree : SmallSwarm.Action → Bool
  | .slot _ | .popFront => false
  | _ => true

def step (locked : Locked) : Action → Option Locked
  | .lock =>
    if locked.within = .outside ∧ locked.swarm.point = .popFront ∧ locked.eventBufferLock = none then
      some { locked with eventBufferLock := some .run, within := .front }
    else none
  | .front =>
    if locked.within = .front ∧ locked.swarm.point = .popFront then some locked.readFront else none
  | .popFront =>
    if locked.within = .popFront ∧ locked.swarm.point = .popFront then some locked.dropFront
    else none
  | .unlock =>
    if locked.within = .unlock then
      some { locked with eventBufferLock := none, within := .outside }
    else none
  | .slotCalled subscriber message =>
    -- The slot returns at once from a message that is no vehicle payload.
    if locked.slots subscriber = .idle then
      some (if (eventOf message).isSome then locked.setSlot subscriber (.lock message) else locked)
    else none
  | .slotLock subscriber =>
    match locked.slots subscriber with
    | .lock message =>
      if locked.eventBufferLock = none then
        some { locked.setSlot subscriber (.pushBack message) with
          eventBufferLock := some (.slot subscriber) }
      else none
    | _ => none
  | .slotPush subscriber message =>
    if locked.slots subscriber = .pushBack message then
      some ((locked.pushEvent message).setSlot subscriber .unlock)
    else none
  | .slotUnlock subscriber =>
    if locked.slots subscriber = .unlock then
      some { locked.setSlot subscriber .idle with eventBufferLock := none }
    else none
  | .run action =>
    if locked.within = .outside ∧ lockFree action = true then
      (SmallSwarm.step locked.swarm action).map fun after => { locked with swarm := after }
    else none

/-- The step of loop and slots an action completes: a pop, a push, or a step without the lock. -/
def serial : Action → Option SmallSwarm.Action
  | .popFront => some .popFront
  | .slotPush _ message => some (.slot message)
  | .run action => some action
  | _ => none

/-- In the section of code the lock is taken for. -/
def inside (locked : Locked) : Holder → Prop
  | .run => locked.within ≠ .outside
  | .slot subscriber => (locked.slots subscriber).locked = true

/-- The state of loop and slots, but for the front the loop has copied and not yet popped. -/
def Matches (locked : Locked) (swarm : State) : Prop :=
  locked.swarm =
    if locked.within = .popFront then { swarm with eventText := front? swarm.eventBuffer } else swarm

/-- What a holder of the lock has left to do with it. -/
def remaining (locked : Locked) : Holder → List Action
  | .run =>
    match locked.within with
    | .outside => []
    | .front => [.front, .popFront, .unlock]
    | .popFront => [.popFront, .unlock]
    | .unlock => [.unlock]
  | .slot subscriber =>
    match locked.slots subscriber with
    | .pushBack message => [.slotPush subscriber message, .slotUnlock subscriber]
    | .unlock => [.slotUnlock subscriber]
    | .idle | .lock _ => []

/-! ## One step -/

/-- The locked state beside a state of the loop and its slots, with its history. -/
structure Matched (locked : Locked) (traced : Traced) : Prop where
  exclusive : Exclusive locked.eventBufferLock locked.inside
  sound : Sound traced
  same : Matches locked traced.swarm
  entered : locked.within = .front ∨ locked.within = .popFront → traced.swarm.point = .popFront

theorem initial_matched (nowMs : Int) : Matched (initial nowMs) (Traced.initial nowMs) where
  exclusive := by
    intro holder
    cases holder <;> simp [inside, initial, atRest, Slot.locked]
  sound := initial_sound nowMs
  same := rfl
  entered := by simp [initial, atRest]

theorem front?_pop {eventBuffer rest : Ring EventText eventRingSize} {event : EventText}
    (front : eventBuffer.popFront? = some (event, rest)) : front? eventBuffer = some event := by
  rw [front?, front]
  rfl

/-- A loop about to take the front finds one. -/
theorem Matched.front {locked : Locked} {traced : Traced} (matched : Matched locked traced)
    (entered : traced.swarm.point = .popFront) :
    ∃ event rest, traced.swarm.eventBuffer.popFront? = some (event, rest) := by
  cases front : traced.swarm.eventBuffer.popFront? with
  | none => exact absurd (Ring.popFront?_none front) (matched.sound.filled entered)
  | some taken => exact ⟨taken.1, taken.2, rfl⟩

theorem Matches.outside {locked : Locked} {swarm : State} (same : Matches locked swarm)
    (away : locked.within ≠ .popFront) : locked.swarm = swarm := by
  rwa [Matches, if_neg away] at same

theorem Matches.copied {locked : Locked} {swarm : State} (same : Matches locked swarm)
    (here : locked.within = .popFront) :
    locked.swarm = { swarm with eventText := front? swarm.eventBuffer } := by
  rwa [Matches, if_pos here] at same

/-- The ring and the loop's place in its turn are the same at both levels. -/
theorem Matches.shared {locked : Locked} {swarm : State} (same : Matches locked swarm) :
    locked.swarm.eventBuffer = swarm.eventBuffer ∧ locked.swarm.point = swarm.point := by
  unfold Matches at same
  split at same
  · rw [same]
    exact ⟨rfl, rfl⟩
  · rw [same]
    exact ⟨rfl, rfl⟩

/-- The loop's steps leave every slot where it is. -/
theorem inside_slots {locked after : Locked} (slots : after.slots = locked.slots) {holder : Holder}
    (other : holder ≠ .run) : after.inside holder ↔ locked.inside holder := by
  cases holder with
  | run => exact absurd rfl other
  | slot number => simp [inside, slots]

/-- So do they the loop, where it stays in its section or out of it. -/
theorem inside_still {locked after : Locked} (slots : after.slots = locked.slots)
    (still : after.within ≠ .outside ↔ locked.within ≠ .outside) (holder : Holder) :
    after.inside holder ↔ locked.inside holder := by
  cases holder with
  | run => exact still
  | slot subscriber => exact inside_slots slots (by simp)

theorem inside_slot {after : Locked} {slots : Nat → Slot} {subscriber : Nat} {slot : Slot}
    (moved : after.slots = Function.update slots subscriber slot) :
    after.inside (.slot subscriber) ↔ slot.locked = true := by
  simp [inside, moved]

/-- A slot's steps leave every other thread where it is. -/
theorem inside_others {locked after : Locked} {subscriber : Nat} {slot : Slot}
    (within : after.within = locked.within)
    (moved : after.slots = Function.update locked.slots subscriber slot) {holder : Holder}
    (other : holder ≠ .slot subscriber) : after.inside holder ↔ locked.inside holder := by
  cases holder with
  | run => simp [inside, within]
  | slot number =>
    have apart : number ≠ subscriber := fun same => other (congrArg _ same)
    simp [inside, moved, Function.update_of_ne apart]

/-- A slot that stays in its section, or out of it. -/
theorem inside_kept {locked after : Locked} {subscriber : Nat} {slot : Slot}
    (within : after.within = locked.within)
    (moved : after.slots = Function.update locked.slots subscriber slot)
    (kept : slot.locked = (locked.slots subscriber).locked) (holder : Holder) :
    after.inside holder ↔ locked.inside holder := by
  by_cases same : holder = .slot subscriber
  · subst same
    rw [inside_slot moved, kept]
    rfl
  · exact inside_others within moved same

/-- Everything a step of the threads can be. -/
inductive Stepped (locked : Locked) : Action → Locked → Prop where
  | lock (away : locked.within = .outside) (here : locked.swarm.point = .popFront)
      (free : locked.eventBufferLock = none) :
      Stepped locked .lock { locked with eventBufferLock := some .run, within := .front }
  | front (within : locked.within = .front) (here : locked.swarm.point = .popFront) :
      Stepped locked .front locked.readFront
  | popFront (within : locked.within = .popFront) (here : locked.swarm.point = .popFront) :
      Stepped locked .popFront locked.dropFront
  | unlock (within : locked.within = .unlock) :
      Stepped locked .unlock { locked with eventBufferLock := none, within := .outside }
  | slotIgnored (idle : locked.slots subscriber = .idle) :
      Stepped locked (.slotCalled subscriber message) locked
  | slotCalled (idle : locked.slots subscriber = .idle) :
      Stepped locked (.slotCalled subscriber message) (locked.setSlot subscriber (.lock message))
  | slotLock (waits : locked.slots subscriber = .lock message)
      (free : locked.eventBufferLock = none) :
      Stepped locked (.slotLock subscriber)
        { locked.setSlot subscriber (.pushBack message) with
          eventBufferLock := some (.slot subscriber) }
  | slotPush (here : locked.slots subscriber = .pushBack message) :
      Stepped locked (.slotPush subscriber message)
        ((locked.pushEvent message).setSlot subscriber .unlock)
  | slotUnlock (here : locked.slots subscriber = .unlock) :
      Stepped locked (.slotUnlock subscriber)
        { locked.setSlot subscriber .idle with eventBufferLock := none }
  | run (away : locked.within = .outside) (stepped : SmallSwarm.step locked.swarm action = some after) :
      Stepped locked (.run action) { locked with swarm := after }

theorem step_cases {locked next : Locked} {action : Action}
    (taken : locked.step action = some next) : Stepped locked action next := by
  cases action with
  | lock =>
    obtain ⟨⟨away, here, free⟩, same⟩ := Option.ite_none_right_eq_some.mp taken
    cases same
    exact .lock away here free
  | front =>
    obtain ⟨⟨within, here⟩, same⟩ := Option.ite_none_right_eq_some.mp taken
    cases same
    exact .front within here
  | popFront =>
    obtain ⟨⟨within, here⟩, same⟩ := Option.ite_none_right_eq_some.mp taken
    cases same
    exact .popFront within here
  | unlock =>
    obtain ⟨within, same⟩ := Option.ite_none_right_eq_some.mp taken
    cases same
    exact .unlock within
  | slotCalled subscriber message =>
    obtain ⟨idle, same⟩ := Option.ite_none_right_eq_some.mp taken
    cases Option.some.inj same
    split
    · exact .slotCalled idle
    · exact .slotIgnored idle
  | slotLock subscriber =>
    cases waits : locked.slots subscriber with
    | lock message =>
      simp only [step, waits] at taken
      obtain ⟨free, same⟩ := Option.ite_none_right_eq_some.mp taken
      cases same
      exact .slotLock waits free
    | _ => simp [step, waits] at taken
  | slotPush subscriber message =>
    obtain ⟨here, same⟩ := Option.ite_none_right_eq_some.mp taken
    cases same
    exact .slotPush here
  | slotUnlock subscriber =>
    obtain ⟨here, same⟩ := Option.ite_none_right_eq_some.mp taken
    cases same
    exact .slotUnlock here
  | run action =>
    obtain ⟨⟨away, _⟩, onward⟩ := Option.ite_none_right_eq_some.mp taken
    obtain ⟨after, stepped, rfl⟩ := Option.map_eq_some_iff.mp onward
    exact .run away stepped

/-- A step of loop and slots, with its history. -/
theorem traced_step {traced : Traced} {swarm : State} {action : SmallSwarm.Action}
    (stepped : SmallSwarm.step traced.swarm action = some swarm) :
    traceStep traced action = some ⟨swarm, record traced.swarm traced.history action⟩ := by
  rw [traceStep, stepped]
  rfl

/-- A pop in the section is the loop's pop: the front copied before is still the front. -/
theorem Matched.popFront {locked : Locked} {traced : Traced} (matched : Matched locked traced)
    (within : locked.within = .popFront) :
    ∃ after, Takes traceStep traced .popFront after ∧ Matched locked.dropFront after := by
  have entered := matched.entered (.inr within)
  obtain ⟨event, rest, front⟩ := matched.front entered
  have copied := matched.same.copied within
  have popped : SmallSwarm.step traced.swarm .popFront =
      some { traced.swarm with eventBuffer := rest, eventText := some event, point := .clock } := by
    simp [SmallSwarm.step, entered, popEvent, front]
  have taken := traced_step popped
  have dropped : locked.dropFront = { locked with
      swarm := { traced.swarm with eventBuffer := rest, eventText := some event, point := .clock }
      within := .unlock } := by
    simp [dropFront, copied, front, front?_pop front]
  refine ⟨_, taken, ?_⟩
  rw [dropped]
  refine ⟨matched.exclusive.stay ?_, (matched.sound.step taken).1, ?_, ?_⟩
  · exact inside_still (by rfl) (by simp [within])
  · simp [Matches]
  · simp

/-- A push under the lock is the slot's step: the loop is outside its section. -/
theorem Matched.slotPush {locked : Locked} {traced : Traced} (matched : Matched locked traced)
    {subscriber : Nat} {message : ZMQ.Message}
    (here : locked.slots subscriber = .pushBack message) :
    ∃ after, Takes traceStep traced (.slot message) after ∧
      Matched ((locked.pushEvent message).setSlot subscriber .unlock) after := by
  have mine : locked.inside (.slot subscriber) := by
    rw [inside, here]
    rfl
  have away : locked.within = .outside := by
    by_contra within
    have inside : locked.inside .run := within
    cases matched.exclusive.one mine inside
  have same : locked.swarm = traced.swarm := matched.same.outside (by simp [away])
  have pushed : SmallSwarm.step traced.swarm (.slot message) = some { traced.swarm with
      eventBuffer := slotZmqMessageArrived traced.swarm.eventBuffer message } := rfl
  have taken := traced_step pushed
  refine ⟨_, taken, ?_, (matched.sound.step taken).1, ?_, ?_⟩
  · apply matched.exclusive.stay
    intro holder
    exact inside_kept (by rfl) (by rfl) (by simp [here, Slot.locked]) holder
  · simp [Matches, setSlot, pushEvent, away, same]
  · simp [setSlot, pushEvent, away]

theorem Matched.step {locked next : Locked} {traced : Traced} {action : Action}
    (matched : Matched locked traced) (taken : locked.step action = some next) :
    ∃ after, Run (Takes traceStep) traced (serial action).toList after ∧ Matched next after := by
  have exclusive := matched.exclusive
  cases step_cases taken with
  | lock away here free =>
    have same := matched.same.outside (by simp [away])
    rw [free] at exclusive
    refine ⟨traced, .start, exclusive.enter (by simp [inside]) ?_, matched.sound, ?_, ?_⟩
    · intro holder other
      exact inside_slots (by rfl) other
    · exact same
    · intro _
      exact same ▸ here
  | front within here =>
    have entered := matched.entered (.inl within)
    obtain ⟨event, rest, front⟩ := matched.front entered
    have same := matched.same.outside (by simp [within])
    have copied : locked.readFront = { locked with
        swarm := { traced.swarm with eventText := some event }, within := .popFront } := by
      simp [readFront, same, front]
    rw [copied]
    refine ⟨traced, .start, exclusive.stay ?_, matched.sound, ?_, fun _ => entered⟩
    · exact inside_still (by rfl) (by simp [within])
    · simp [Matches, front?_pop front]
  | popFront within here =>
    obtain ⟨after, popped, still⟩ := matched.popFront within
    exact ⟨after, .single popped, still⟩
  | unlock within =>
    have same := matched.same.outside (by simp [within])
    have mine := (exclusive .run).mp (by simp [inside, within])
    rw [mine] at exclusive
    refine ⟨traced, .start, exclusive.leave (by simp [inside]) ?_, matched.sound, ?_, by simp⟩
    · intro holder other
      exact inside_slots (by rfl) other
    · exact same
  | slotIgnored _ => exact ⟨traced, .start, matched⟩
  | slotCalled idle =>
    refine ⟨traced, .start, exclusive.stay ?_, matched.sound, matched.same, matched.entered⟩
    intro holder
    exact inside_kept (by rfl) (by rfl) (by simp [idle, Slot.locked]) holder
  | slotLock waits free =>
    rw [free] at exclusive
    refine ⟨traced, .start, exclusive.enter ?_ ?_, matched.sound, matched.same, matched.entered⟩
    · exact (inside_slot (by rfl)).mpr rfl
    · intro holder other
      exact inside_others (by rfl) (by rfl) other
  | slotPush here =>
    obtain ⟨after, pushed, still⟩ := matched.slotPush here
    exact ⟨after, .single pushed, still⟩
  | @slotUnlock subscriber here =>
    have mine := (exclusive (.slot subscriber)).mp (by simp [inside, here, Slot.locked])
    rw [mine] at exclusive
    refine ⟨traced, .start, exclusive.leave ?_ ?_, matched.sound, matched.same, matched.entered⟩
    · intro still
      cases (inside_slot (by rfl)).mp still
    · intro holder other
      exact inside_others (by rfl) (by rfl) other
  | @run action after away stepped =>
    have same := matched.same.outside (by simp [away])
    rw [same] at stepped
    have taken := traced_step stepped
    refine ⟨_, .single taken, exclusive.stay ?_, (matched.sound.step taken).1, ?_, ?_⟩
    · exact inside_still (by rfl) (by rfl)
    · simp [Matches, away]
    · simp [away]

/-! ## Whole runs -/

theorem untraced {start final : Traced} {actions : List SmallSwarm.Action}
    (run : Run (Takes traceStep) start actions final) :
    Run (Takes SmallSwarm.step) start.swarm actions final.swarm := by
  induction run with
  | start => exact .start
  | step _ taken ih => exact .step ih (traceStep_some taken).1

theorem run_matched {nowMs : Int} {actions : List Action} {locked : Locked}
    (run : Run (Takes step) (initial nowMs) actions locked) :
    ∃ traced, Run (Takes traceStep) (Traced.initial nowMs) (actions.filterMap serial) traced ∧
      Matched locked traced := by
  apply run.projected ?_ (initial_matched nowMs)
  intro locked action next traced matched taken
  exact matched.step taken

theorem unlocks {locked : Locked} (within : locked.within = .unlock) :
    ∃ free, Run (Takes step) locked [.unlock] free ∧ free.eventBufferLock = none := by
  have unlocked : Takes step locked .unlock
      { locked with eventBufferLock := none, within := .outside } := if_pos within
  exact ⟨_, .single unlocked, rfl⟩

theorem slotUnlocks {locked : Locked} {subscriber : Nat}
    (here : locked.slots subscriber = .unlock) :
    ∃ free, Run (Takes step) locked [.slotUnlock subscriber] free ∧ free.eventBufferLock = none := by
  have unlocked : Takes step locked (.slotUnlock subscriber)
      { locked.setSlot subscriber .idle with eventBufferLock := none } := if_pos here
  exact ⟨_, .single unlocked, rfl⟩

/-- Whoever holds the lock gives it back by itself. -/
theorem Matched.releases {locked : Locked} {traced : Traced} (matched : Matched locked traced)
    {holder : Holder} (inside : locked.inside holder) :
    ∃ free, Run (Takes Locked.step) locked (locked.remaining holder) free ∧
      free.eventBufferLock = none := by
  obtain ⟨ring, point⟩ := matched.same.shared
  cases holder with
  | run =>
    cases within : locked.within with
    | outside => exact absurd within inside
    | unlock =>
      simp only [remaining, within]
      exact unlocks within
    | popFront =>
      have entered := matched.entered (.inr within)
      obtain ⟨event, rest, front⟩ := matched.front entered
      rw [← ring] at front
      have dropped : Takes Locked.step locked .popFront locked.dropFront :=
        if_pos ⟨within, point.trans entered⟩
      have last : locked.dropFront.within = .unlock := by simp [dropFront, front]
      obtain ⟨free, unlocked, none⟩ := unlocks last
      simp only [remaining, within]
      exact ⟨free, (Run.single dropped).trans unlocked, none⟩
    | front =>
      have entered := matched.entered (.inl within)
      obtain ⟨event, rest, front⟩ := matched.front entered
      rw [← ring] at front
      have copied : Takes Locked.step locked .front locked.readFront :=
        if_pos ⟨within, point.trans entered⟩
      have dropped : Takes Locked.step locked.readFront .popFront locked.readFront.dropFront :=
        if_pos (by simp [readFront, front, point, entered])
      have last : locked.readFront.dropFront.within = .unlock := by
        simp [dropFront, readFront, front]
      obtain ⟨free, unlocked, none⟩ := unlocks last
      simp only [remaining, within]
      exact ⟨free, ((Run.single copied).trans (.single dropped)).trans unlocked, none⟩
  | slot subscriber =>
    cases here : locked.slots subscriber with
    | idle => simp [Locked.inside, here, Slot.locked] at inside
    | lock message => simp [Locked.inside, here, Slot.locked] at inside
    | unlock =>
      simp only [remaining, here]
      exact slotUnlocks here
    | pushBack message =>
      have pushed : Takes Locked.step locked (.slotPush subscriber message)
          ((locked.pushEvent message).setSlot subscriber .unlock) := if_pos here
      have last : ((locked.pushEvent message).setSlot subscriber .unlock).slots subscriber =
          .unlock := by simp [setSlot]
      obtain ⟨free, unlocked, none⟩ := slotUnlocks last
      simp only [remaining, here]
      exact ⟨free, (Run.single pushed).trans unlocked, none⟩

/-- However the threads take the lock, copy, pop, push and test, the pops and pushes and the
steps without the lock are, in their order, a run of the loop and its slots, with the same
ring. One thread at most is in its section; the front of an empty ring is never taken; and
whoever holds the lock can give it back without any other thread. -/
theorem sections_serialised {nowMs : Int} {actions : List Action} {locked : Locked}
    (run : Run (Takes step) (initial nowMs) actions locked) :
    (∃ swarm, Run (Takes SmallSwarm.step) (SmallSwarm.initial nowMs) (actions.filterMap serial) swarm ∧
      Matches locked swarm) ∧
    locked.swarm.point ≠ .undefined ∧
    Exclusive locked.eventBufferLock locked.inside ∧
    ∀ holder, locked.eventBufferLock = some holder →
      ∃ free, Run (Takes step) locked (locked.remaining holder) free ∧
        free.eventBufferLock = none := by
  obtain ⟨traced, matching, matched⟩ := run_matched run
  refine ⟨⟨traced.swarm, untraced matching, matched.same⟩, ?_, matched.exclusive, ?_⟩
  · rw [matched.same.shared.2]
    exact matched.sound.defined
  · intro holder holds
    have inside := (matched.exclusive holder).mpr holds
    exact matched.releases inside

set_option maxRecDepth 4000 in
/-- A payload pushed under the lock while the loop tests the ring, and popped under it. -/
theorem sections_serialised_payload :
    ∃ locked, Run (Takes step) (initial 0)
        [.slotCalled 1 (ZmqPublish.frame ZMQ.vehicleIdLeader (.ofStorage (.zeros 32))),
          .slotLock 1, .run .test,
          .slotPush 1 (ZmqPublish.frame ZMQ.vehicleIdLeader (.ofStorage (.zeros 32))),
          .run (.clock 0), .run .test, .slotUnlock 1, .lock, .front] locked ∧
      locked.swarm.point ≠ .undefined := by
  have run : Run (Takes step) (initial 0)
      [.slotCalled 1 (ZmqPublish.frame ZMQ.vehicleIdLeader (.ofStorage (.zeros 32))),
        .slotLock 1, .run .test,
        .slotPush 1 (ZmqPublish.frame ZMQ.vehicleIdLeader (.ofStorage (.zeros 32))),
        .run (.clock 0), .run .test, .slotUnlock 1, .lock, .front] _ := execute_run rfl
  exact ⟨_, run, (sections_serialised run).2.1⟩

/-! ## Nothing is lost by taking the sections whole -/

theorem performs_slot (swarm : State) (message : ZMQ.Message) (subscriber : Nat) :
    ∃ actions, Run (Takes step) (atRest swarm) actions (atRest
      { swarm with eventBuffer := slotZmqMessageArrived swarm.eventBuffer message }) := by
  cases kept : eventOf message with
  | none =>
    have called : step (atRest swarm) (.slotCalled subscriber message) = some (atRest swarm) := by
      simp [step, atRest, kept]
    rw [slot_other kept]
    exact ⟨_, .single called⟩
  | some event =>
    have done : execute step (atRest swarm) [.slotCalled subscriber message, .slotLock subscriber,
        .slotPush subscriber message, .slotUnlock subscriber] = some (atRest
          { swarm with eventBuffer := slotZmqMessageArrived swarm.eventBuffer message }) := by
      simp [execute, step, atRest, kept, setSlot, pushEvent]
    exact ⟨_, execute_run done⟩

theorem performs_popFront {swarm : State} {event : EventText}
    {rest : Ring EventText eventRingSize} (here : swarm.point = .popFront)
    (front : swarm.eventBuffer.popFront? = some (event, rest)) :
    ∃ actions, Run (Takes step) (atRest swarm) actions (atRest
      { swarm with eventBuffer := rest, eventText := some event, point := .clock }) := by
  have done : execute step (atRest swarm) [.lock, .front, .popFront, .unlock] = some (atRest
      { swarm with eventBuffer := rest, eventText := some event, point := .clock }) := by
    simp [execute, step, atRest, here, readFront, dropFront, front]
  exact ⟨_, execute_run done⟩

/-- Every step of loop and slots, section for section. -/
theorem performs {swarm next : State} {action : SmallSwarm.Action}
    (taken : SmallSwarm.step swarm action = some next) (defined : next.point ≠ .undefined) :
    ∃ actions, Run (Takes step) (atRest swarm) actions (atRest next) := by
  have alone (free : lockFree action = true) :
      ∃ actions, Run (Takes step) (atRest swarm) actions (atRest next) := by
    have stepped : step (atRest swarm) (.run action) = some (atRest next) := by
      simp [step, atRest, free, taken]
    exact ⟨_, .single stepped⟩
  cases SmallSwarm.step_cases taken with
  | slot message => exact performs_slot swarm message 0
  | popped here front => exact performs_popFront here front
  | undefined here empty => exact absurd rfl defined
  | _ => exact alone rfl

/-- Between sections the threads reach the states the loop and its slots reach, and no others. -/
theorem atRest_reached_iff (nowMs : Int) (swarm : State) :
    (∃ actions, Run (Takes step) (initial nowMs) actions (atRest swarm)) ↔
      ∃ actions, Run (Takes SmallSwarm.step) (SmallSwarm.initial nowMs) actions swarm := by
  constructor
  · intro reached
    obtain ⟨actions, run⟩ := reached
    obtain ⟨traced, matching, matched⟩ := run_matched run
    have same : swarm = traced.swarm := matched.same.outside (by simp [atRest])
    exact ⟨_, same ▸ untraced matching⟩
  · intro reached
    obtain ⟨actions, run⟩ := reached
    induction run with
    | start => exact ⟨[], .start⟩
    | step earlier taken ih =>
      obtain ⟨before, reached⟩ := ih
      have defined := run_defined (.step earlier taken)
      obtain ⟨within, performed⟩ := performs taken defined
      exact ⟨before ++ within, reached.trans performed⟩

end Locked

end VehicleRunner.Plugin.SmallSwarm
