import VehicleRunner.Foundation.Ranking
import VehicleRunner.Plugin.EventRing

/-! The thread of `SmallSwarm_Impl::run` and its interruption by `Stop`: the loop tests for
one before each turn, and its sleeps throw it. -/

namespace VehicleRunner.Plugin.SmallSwarm

open VehicleRunner.Foundation VehicleRunner.Bundle

/-- Asleep before the loop, in it, asleep for want of an event, or returned. -/
inductive Phase where
  | delay | loop | wait | ended
  deriving DecidableEq

structure Thread where
  swarm : State
  phase : Phase
  interrupted : Bool

namespace Thread

/-- As `Exec` starts it; the first clock reading is taken before the first sleep. -/
def initial (nowMs : Int) : Thread := ⟨SmallSwarm.initial nowMs, .delay, false⟩

/-- `Stop` interrupts, a sleep is over, or the loop or a subscriber's slot goes on. -/
inductive Action where
  | interrupt
  | wake
  | swarm (action : SmallSwarm.Action)
  deriving DecidableEq

/-- What the thread does itself; the slots run on the subscribers' threads. -/
def own : Action → Bool
  | .interrupt => false
  | .swarm (.slot _) => false
  | _ => true

def takes : Action → Bool
  | .swarm .popFront => true
  | _ => false

def publishes : Action → Bool
  | .swarm .publish => true
  | _ => false

/-- A sleep is an interruption point: it takes the request back and throws. -/
def awake (thread : Thread) : Thread :=
  if thread.interrupted then { thread with phase := .ended, interrupted := false }
  else { thread with phase := .loop }

/-- The head of the loop, its tests for an interruption and an event as one, with the sleep
they may lead to. -/
def turn (thread : Thread) : Option Thread :=
  if thread.interrupted then
    if thread.swarm.point = .test then some { thread with phase := .ended } else none
  else
    (SmallSwarm.step thread.swarm .test).map fun after =>
      { thread with
        swarm := after
        phase := if thread.swarm.eventBuffer.isEmpty then .wait else .loop }

def step (thread : Thread) : Action → Option Thread
  | .interrupt => some { thread with interrupted := true }
  | .wake => if thread.phase = .delay ∨ thread.phase = .wait then some thread.awake else none
  | .swarm (.slot message) =>
    (SmallSwarm.step thread.swarm (.slot message)).map fun after => { thread with swarm := after }
  | .swarm .test => if thread.phase = .loop then thread.turn else none
  | .swarm action =>
    if thread.phase = .loop then
      (SmallSwarm.step thread.swarm action).map fun after => { thread with swarm := after }
    else none

/-- Everything a step of the thread can be. -/
inductive Stepped (thread : Thread) : Action → Thread → Prop where
  | interrupt : Stepped thread .interrupt { thread with interrupted := true }
  | thrown (asleep : thread.phase = .delay ∨ thread.phase = .wait) (asked : thread.interrupted = true) :
      Stepped thread .wake { thread with phase := .ended, interrupted := false }
  | woken (asleep : thread.phase = .delay ∨ thread.phase = .wait) (unasked : thread.interrupted = false) :
      Stepped thread .wake { thread with phase := .loop }
  | returned (here : thread.phase = .loop) (asked : thread.interrupted = true)
      (test : thread.swarm.point = .test) : Stepped thread (.swarm .test) { thread with phase := .ended }
  | turned (here : thread.phase = .loop) (unasked : thread.interrupted = false)
      (stepped : SmallSwarm.step thread.swarm .test = some after) :
      Stepped thread (.swarm .test) { thread with
        swarm := after
        phase := if thread.swarm.eventBuffer.isEmpty then .wait else .loop }
  | slot (stepped : SmallSwarm.step thread.swarm (.slot message) = some after) :
      Stepped thread (.swarm (.slot message)) { thread with swarm := after }
  | onward (here : thread.phase = .loop) (inside : action ≠ .test)
      (mine : own (.swarm action) = true) (stepped : SmallSwarm.step thread.swarm action = some after) :
      Stepped thread (.swarm action) { thread with swarm := after }

theorem step_cases {thread next : Thread} {action : Action} (taken : thread.step action = some next) :
    Stepped thread action next := by
  cases action with
  | interrupt =>
    cases taken
    exact .interrupt
  | wake =>
    obtain ⟨asleep, awoken⟩ := Option.ite_none_right_eq_some.mp taken
    cases awoken
    cases asked : thread.interrupted with
    | true => simpa only [awake, asked, ↓reduceIte] using Stepped.thrown asleep asked
    | false => simpa only [awake, asked, Bool.false_eq_true, ↓reduceIte] using Stepped.woken asleep asked
  | swarm action =>
    cases action with
    | slot message =>
      cases Option.some.inj taken
      exact .slot rfl
    | test =>
      obtain ⟨here, turned⟩ := Option.ite_none_right_eq_some.mp taken
      cases asked : thread.interrupted with
      | true =>
        simp only [turn, asked, ↓reduceIte] at turned
        obtain ⟨test, ended⟩ := Option.ite_none_right_eq_some.mp turned
        cases ended
        exact asked ▸ .returned here asked test
      | false =>
        simp only [turn, asked, Bool.false_eq_true, ↓reduceIte] at turned
        obtain ⟨after, stepped, rfl⟩ := Option.map_eq_some_iff.mp turned
        exact asked ▸ .turned here asked stepped
    | _ =>
      obtain ⟨here, onward⟩ := Option.ite_none_right_eq_some.mp taken
      obtain ⟨after, stepped, rfl⟩ := Option.map_eq_some_iff.mp onward
      exact .onward here (by simp) rfl stepped

/-! ## What the thread is made of -/

/-- Nothing but a step of the loop or of a slot touches the ring and the loop's variables. -/
theorem step_swarm {thread next : Thread} {action : Action} (taken : thread.step action = some next) :
    next.swarm = thread.swarm ∨ ∃ within, SmallSwarm.step thread.swarm within = some next.swarm := by
  cases step_cases taken with
  | turned _ _ stepped => exact .inr ⟨_, stepped⟩
  | slot stepped => exact .inr ⟨_, stepped⟩
  | onward _ _ _ stepped => exact .inr ⟨_, stepped⟩
  | _ => exact .inl rfl

/-- The thread runs the loop: an interruption only cuts its run short. -/
theorem run_swarm {nowMs : Int} {actions : List Action} {thread : Thread}
    (run : Run (Takes step) (initial nowMs) actions thread) :
    ∃ within, Run (Takes SmallSwarm.step) (SmallSwarm.initial nowMs) within thread.swarm := by
  induction run with
  | start => exact ⟨[], .start⟩
  | step _ taken ih =>
    obtain ⟨within, run⟩ := ih
    rcases step_swarm taken with same | ⟨action, stepped⟩
    · exact ⟨within, same ▸ run⟩
    · exact ⟨within ++ [action], .step run stepped⟩

/-- The ring is not empty where the loop takes its front. -/
def Defined (thread : Thread) : Prop := ∃ history, Sound ⟨thread.swarm, history⟩

theorem Defined.next {thread next : Thread} {action : Action} (defined : thread.Defined)
    (taken : thread.step action = some next) : next.Defined := by
  obtain ⟨history, sound⟩ := defined
  rcases step_swarm taken with same | ⟨within, stepped⟩
  · exact ⟨history, same ▸ sound⟩
  · have traced : traceStep ⟨thread.swarm, history⟩ within =
        some ⟨next.swarm, record thread.swarm history within⟩ := by
      simp only [traceStep, stepped, Option.map_some]
    exact ⟨_, (sound.step traced).1⟩

/-! ## After the interruption -/

/-- Interrupted, or returned already. -/
def Stopping (thread : Thread) : Prop := thread.interrupted = true ∨ thread.phase = .ended

/-- How many steps the thread may still take, by where it stands when it is interrupted. -/
def ahead : Phase → Point → Nat
  | .ended, _ => 0
  | .delay, _ => 1
  | .wait, _ => 1
  | .loop, .undefined => 0
  | .loop, .test => 1
  | .loop, .publish => 2
  | .loop, .getVelocity => 3
  | .loop, .getPosition => 4
  | .loop, .clock => 5
  | .loop, .popFront => 6

/-- The events it may still take. -/
def takesAhead : Phase → Point → Nat
  | .loop, .popFront => 1
  | _, _ => 0

/-- The payloads it may still publish. -/
def publishesAhead : Phase → Point → Nat
  | .loop, .test => 0
  | .loop, .undefined => 0
  | .loop, _ => 1
  | _, _ => 0

theorem Stopping.next {thread next : Thread} {action : Action} (stopping : thread.Stopping)
    (taken : thread.step action = some next) : next.Stopping := by
  cases step_cases taken with
  | interrupt => exact .inl rfl
  | thrown => exact .inr rfl
  | returned => exact .inr rfl
  | woken asleep unasked =>
    rcases stopping with asked | gone
    · rw [unasked] at asked
      cases asked
    · rw [gone] at asleep
      rcases asleep with delay | wait
      · cases delay
      · cases wait
  | turned here unasked _ =>
    rcases stopping with asked | gone
    · rw [unasked] at asked
      cases asked
    · rw [here] at gone
      cases gone
  | slot => exact stopping
  | onward => exact stopping

/-- How a thread that is interrupted moves on, from phase and point to phase and point. -/
inductive Falls : Action → Phase → Point → Phase → Point → Prop where
  | interrupt : Falls .interrupt before point before point
  | slot : Falls (.swarm (.slot message)) before point before point
  | delay : Falls .wake .delay point .ended point
  | wait : Falls .wake .wait point .ended point
  | returned : Falls (.swarm .test) .loop .test .ended .test
  | popped : Falls (.swarm .popFront) .loop .popFront .loop .clock
  | undefined : Falls (.swarm .popFront) .loop .popFront .loop .undefined
  | due : Falls (.swarm (.clock nowMs)) .loop .clock .loop .getPosition
  | early : Falls (.swarm (.clock nowMs)) .loop .clock .loop .test
  | getPosition : Falls (.swarm (.getPosition telemetry)) .loop .getPosition .loop .getVelocity
  | getVelocity : Falls (.swarm (.getVelocity telemetry)) .loop .getVelocity .loop .publish
  | publish : Falls (.swarm .publish) .loop .publish .loop .test

theorem Stopping.falls {thread next : Thread} {action : Action} (stopping : thread.Stopping)
    (taken : thread.step action = some next) :
    Falls action thread.phase thread.swarm.point next.phase next.swarm.point := by
  have interrupted (unasked : thread.interrupted = false) : thread.phase = .ended := by
    rcases stopping with asked | gone
    · rw [unasked] at asked
      cases asked
    · exact gone
  cases step_cases taken with
  | interrupt => exact .interrupt
  | thrown asleep _ =>
    rcases asleep with delay | wait
    · rw [delay]
      exact .delay
    · rw [wait]
      exact .wait
  | woken asleep unasked => simp [interrupted unasked] at asleep
  | returned here _ test =>
    rw [here, test]
    exact .returned
  | turned here unasked _ => simp [interrupted unasked] at here
  | slot stepped =>
    cases SmallSwarm.step_cases stepped
    exact .slot
  | onward here inside mine stepped =>
    simp only [here]
    cases SmallSwarm.step_cases stepped with
    | slot _ => cases mine
    | idle => exact absurd rfl inside
    | ready => exact absurd rfl inside
    | popped point _ => exact point ▸ .popped
    | undefined point _ => exact point ▸ .undefined
    | due point _ => exact point ▸ .due
    | early point _ => exact point ▸ .early
    | getPosition point => exact point ▸ .getPosition
    | getVelocity point => exact point ▸ .getVelocity
    | publish point => exact point ▸ .publish

/-- What each fall pays for, the whole way down pays for. -/
theorem stopping_ranked {mine : Action → Bool} {rank : Phase → Point → Nat}
    (pays : ∀ action phase point after below, Falls action phase point after below →
      rank after below + (mine action).toNat ≤ rank phase point) :
    Ranked (Takes step) Stopping mine fun thread => rank thread.phase thread.swarm.point where
  kept _ _ _ stopping taken := stopping.next taken
  pays _ _ _ stopping taken := pays _ _ _ _ _ (stopping.falls taken)

theorem own_ranked : Ranked (Takes step) Stopping own fun thread => ahead thread.phase thread.swarm.point := by
  apply stopping_ranked
  intro action phase point after below falls
  cases falls <;> simp [ahead, own]

theorem takes_ranked :
    Ranked (Takes step) Stopping takes fun thread => takesAhead thread.phase thread.swarm.point := by
  apply stopping_ranked
  intro action phase point after below falls
  cases falls <;> simp [takesAhead, takes]

theorem publishes_ranked :
    Ranked (Takes step) Stopping publishes fun thread =>
      publishesAhead thread.phase thread.swarm.point := by
  apply stopping_ranked
  intro action phase point after below falls
  cases falls <;> simp [publishesAhead, publishes]

theorem ahead_le (phase : Phase) (point : Point) :
    ahead phase point ≤ 6 ∧ takesAhead phase point ≤ 1 ∧ publishesAhead phase point ≤ 1 := by
  cases phase <;> cases point <;> decide

/-- Until it has returned, the thread can always take a step of its own. -/
theorem Defined.lively {thread : Thread} (defined : thread.Defined) (running : thread.phase ≠ .ended) :
    ∃ action next, own action = true ∧ thread.step action = some next := by
  cases here : thread.phase with
  | delay => exact ⟨.wake, _, rfl, if_pos (.inl here)⟩
  | wait => exact ⟨.wake, _, rfl, if_pos (.inr here)⟩
  | ended => exact absurd here running
  | loop =>
    have onward (action : SmallSwarm.Action) (mine : own (.swarm action) = true)
        (inside : action ≠ .test) {after : State} (stepped : SmallSwarm.step thread.swarm action = some after) :
        ∃ action next, own action = true ∧ thread.step action = some next := by
      refine ⟨.swarm action, { thread with swarm := after }, mine, ?_⟩
      cases action with
      | slot _ => cases mine
      | test => exact absurd rfl inside
      | _ => simp only [step, here, ↓reduceIte, stepped, Option.map_some]
    cases point : thread.swarm.point with
    | test =>
      have turns : thread.step (.swarm .test) = thread.turn := if_pos here
      cases asked : thread.interrupted with
      | true =>
        refine ⟨.swarm .test, { thread with phase := .ended }, rfl, ?_⟩
        simp only [turns, turn, asked, point, ↓reduceIte]
      | false =>
        obtain ⟨after, stepped⟩ : ∃ after, SmallSwarm.step thread.swarm .test = some after :=
          ⟨_, if_pos point⟩
        refine ⟨.swarm .test, { thread with
          swarm := after
          phase := if thread.swarm.eventBuffer.isEmpty then .wait else .loop }, rfl, ?_⟩
        simp only [turns, turn, asked, stepped, Bool.false_eq_true, ↓reduceIte, Option.map_some]
    | popFront => exact onward .popFront rfl (by simp) (if_pos point)
    | clock => exact onward (.clock 0) rfl (by simp) (if_pos point)
    | getPosition => exact onward (.getPosition none) rfl (by simp) (if_pos point)
    | getVelocity => exact onward (.getVelocity none) rfl (by simp) (if_pos point)
    | publish => exact onward .publish rfl (by simp) (if_pos point)
    | undefined =>
      obtain ⟨_, sound⟩ := defined
      exact absurd point sound.defined

/-- Only an interruption ends the thread. -/
theorem ended_interrupted {nowMs : Int} {actions : List Action} {thread : Thread}
    (run : Run (Takes step) (initial nowMs) actions thread) (stopping : thread.Stopping) :
    Action.interrupt ∈ actions := by
  induction run with
  | start =>
    rcases stopping with asked | gone
    · cases asked
    · cases gone
  | @step actions before action next _ taken ih =>
    rw [List.mem_append]
    cases step_cases taken with
    | interrupt => exact .inr (List.mem_singleton_self _)
    | thrown _ asked => exact .inl (ih (.inl asked))
    | returned _ asked _ => exact .inl (ih (.inl asked))
    | woken _ unasked => simp [Stopping, unasked] at stopping
    | turned _ unasked _ =>
      rcases stopping with asked | gone
      · rw [unasked] at asked
        cases asked
      · simp only at gone
        split at gone
        · cases gone
        · cases gone
    | slot _ => exact .inl (ih stopping)
    | onward _ _ _ _ => exact .inl (ih stopping)

/-- The thread runs the loop as it is; it returns only if it is interrupted, and then soon:
whatever the subscribers do meanwhile, it takes at most six more steps, one event and one
broadcast among them, is never stuck on the way, and by itself comes to its end. -/
theorem stop_prompt (nowMs : Int) (actions : List Action) (thread : Thread)
    (run : Run (Takes step) (initial nowMs) actions thread) :
    (∃ within, Run (Takes SmallSwarm.step) (SmallSwarm.initial nowMs) within thread.swarm) ∧
    (thread.phase = .ended → .interrupt ∈ actions) ∧
    (thread.interrupted = true →
      (∀ later final, Run (Takes step) thread later final →
        later.countP own ≤ 6 ∧ later.countP takes ≤ 1 ∧ later.countP publishes ≤ 1 ∧
        (final.phase ≠ .ended → ∃ action next, own action = true ∧ final.step action = some next)) ∧
      ∃ later final, Run (Takes step) thread later final ∧ (∀ action ∈ later, own action = true) ∧
        final.phase = .ended) := by
  have started : (initial nowMs).Defined := ⟨.empty, initial_sound nowMs⟩
  have defined : thread.Defined := run.invariant started fun _ _ _ defined taken => defined.next taken
  refine ⟨run_swarm run, fun gone => ended_interrupted run (.inr gone), fun asked => ?_⟩
  have stopping : thread.Stopping := .inl asked
  constructor
  · intro later final after
    obtain ⟨few, one, once⟩ := ahead_le thread.phase thread.swarm.point
    have steps := own_ranked.spent stopping after
    have events := takes_ranked.spent stopping after
    have payloads := publishes_ranked.spent stopping after
    have kept : final.Defined := after.invariant defined fun _ _ _ defined taken => defined.next taken
    exact ⟨by omega, by omega, by omega, kept.lively⟩
  · have ranked : Ranked (Takes step) (fun thread => thread.Stopping ∧ thread.Defined) own fun thread =>
        ahead thread.phase thread.swarm.point :=
      { kept := fun _ _ _ held taken => ⟨held.1.next taken, held.2.next taken⟩
        pays := fun _ _ _ held taken => own_ranked.pays _ _ _ held.1 taken }
    exact ranked.ends (fun _ held running => held.2.lively running) ⟨stopping, defined⟩

/-- Interrupted on its way to an event, the thread broadcasts once more: six steps. -/
theorem stop_prompt_popping :
    ∃ thread final,
      Run (Takes step) (initial 0)
        [.wake, .swarm (.slot (ZmqPublish.frame ZMQ.vehicleIdLeader (.ofStorage (.zeros 32)))),
          .swarm .test, .interrupt] thread ∧
      Run (Takes step) thread
        [.swarm .popFront, .swarm (.clock 200), .swarm (.getPosition none), .swarm (.getVelocity none),
          .swarm .publish, .swarm .test] final ∧
      final.phase = .ended ∧
      [Action.swarm .popFront, .swarm (.clock 200), .swarm (.getPosition none), .swarm (.getVelocity none),
        .swarm .publish, .swarm .test].countP own ≤ 6 := by
  have whole : Run (Takes step) (initial 0)
      ([.wake, .swarm (.slot (ZmqPublish.frame ZMQ.vehicleIdLeader (.ofStorage (.zeros 32)))),
        .swarm .test, .interrupt] ++
      [.swarm .popFront, .swarm (.clock 200), .swarm (.getPosition none), .swarm (.getVelocity none),
        .swarm .publish, .swarm .test]) _ := execute_run rfl
  obtain ⟨thread, run, after⟩ := whole.split
  obtain rfl := run.unique (execute_run rfl)
  obtain ⟨_, _, stops⟩ := stop_prompt 0 _ _ run
  exact ⟨_, _, run, after, rfl, ((stops rfl).1 _ _ after).1⟩

end Thread

end VehicleRunner.Plugin.SmallSwarm
