import VehicleRunner.Foundation.Ranking
import VehicleRunner.Bundle.ZmqSubscribe

/-! The thread of `ZmqSubscribe_Impl::run` and its interruption by `Stop`, which joins it:
`recv` is no interruption point, and the slots run on this thread. -/

namespace VehicleRunner.Bundle.ZmqSubscribe

open VehicleRunner.Foundation

/-- Where the thread stands; outside its message object anything may happen. -/
inductive Phase where
  | delay | test | recv
  | emit (message : ZMQ.Message)
  | ended
  | outside (fault : Fault)
  deriving DecidableEq

/-- `arrived` records the messages the slots were called with; the code does not see it. -/
structure Thread where
  message : Storage ZMQ.sizeofMessage
  phase : Phase
  interrupted : Bool
  arrived : List ZMQ.Message

namespace Thread

/-- As `Exec` starts it, over whatever the message object held. -/
def initial (message : Storage ZMQ.sizeofMessage) : Thread := ⟨message, .delay, false, []⟩

inductive Action where
  | interrupt
  | wake
  | test
  | recv (result : Option (List Byte))
  | emit
  deriving DecidableEq

def own (action : Action) : Bool := action ≠ .interrupt

def receives : Action → Bool
  | .recv _ => true
  | _ => false

def emits : Action → Bool
  | .emit => true
  | _ => false

/-- What `recv` returned, timeouts included. -/
def recvResult : Action → Option (Option (List Byte))
  | .recv result => some result
  | _ => none

/-- One turn of the loop on what `recv` returned. -/
def turn (vehicleId : Byte) (result : Option (List Byte)) (thread : Thread) : Thread :=
  match iterate vehicleId thread.message result with
  | .ok (message, none) => { thread with message := message, phase := .test }
  | .ok (message, some emitted) => { thread with message := message, phase := .emit emitted }
  | .error fault => { thread with phase := .outside fault }

def step (vehicleId : Byte) (thread : Thread) : Action → Option Thread
  | .interrupt => some { thread with interrupted := true }
  | .wake =>
    if thread.phase = .delay then
      -- The sleep throws the interruption, and takes the request back.
      if thread.interrupted then some { thread with phase := .ended, interrupted := false }
      else some { thread with phase := .test }
    else none
  | .test =>
    if thread.phase = .test then
      some { thread with phase := if thread.interrupted then .ended else .recv }
    else none
  | .recv result => if thread.phase = .recv then some (thread.turn vehicleId result) else none
  | .emit =>
    match thread.phase with
    | .emit message => some { thread with phase := .test, arrived := thread.arrived ++ [message] }
    | _ => none

/-- Everything a step of the thread can be. -/
inductive Stepped (vehicleId : Byte) (thread : Thread) : Action → Thread → Prop where
  | interrupt : Stepped vehicleId thread .interrupt { thread with interrupted := true }
  | thrown (here : thread.phase = .delay) (asked : thread.interrupted = true) :
      Stepped vehicleId thread .wake { thread with phase := .ended, interrupted := false }
  | woken (here : thread.phase = .delay) (unasked : thread.interrupted = false) :
      Stepped vehicleId thread .wake { thread with phase := .test }
  | returned (here : thread.phase = .test) (asked : thread.interrupted = true) :
      Stepped vehicleId thread .test { thread with phase := .ended }
  | tested (here : thread.phase = .test) (unasked : thread.interrupted = false) :
      Stepped vehicleId thread .test { thread with phase := .recv }
  | ignored (here : thread.phase = .recv)
      (turned : iterate vehicleId thread.message result = .ok (copied, none)) :
      Stepped vehicleId thread (.recv result) { thread with message := copied, phase := .test }
  | accepted (here : thread.phase = .recv)
      (turned : iterate vehicleId thread.message result = .ok (copied, some emitted)) :
      Stepped vehicleId thread (.recv result) { thread with message := copied, phase := .emit emitted }
  | failed (here : thread.phase = .recv)
      (turned : iterate vehicleId thread.message result = .error fault) :
      Stepped vehicleId thread (.recv result) { thread with phase := .outside fault }
  | emit (here : thread.phase = .emit emitted) : Stepped vehicleId thread .emit
      { thread with phase := .test, arrived := thread.arrived ++ [emitted] }

theorem step_cases {vehicleId : Byte} {thread next : Thread} {action : Action}
    (taken : thread.step vehicleId action = some next) : Stepped vehicleId thread action next := by
  cases action with
  | interrupt =>
    cases taken
    exact .interrupt
  | wake =>
    obtain ⟨here, woken⟩ := Option.ite_none_right_eq_some.mp taken
    cases asked : thread.interrupted with
    | true =>
      simp only [asked, ↓reduceIte, Option.some.injEq] at woken
      subst woken
      exact .thrown here asked
    | false =>
      simp only [asked, Bool.false_eq_true, ↓reduceIte, Option.some.injEq] at woken
      subst woken
      exact asked ▸ .woken here asked
  | test =>
    obtain ⟨here, tested⟩ := Option.ite_none_right_eq_some.mp taken
    cases tested
    cases asked : thread.interrupted with
    | true => simpa only [asked, ↓reduceIte] using Stepped.returned here asked
    | false => simpa only [asked, Bool.false_eq_true, ↓reduceIte] using Stepped.tested here asked
  | recv result =>
    obtain ⟨here, turned⟩ := Option.ite_none_right_eq_some.mp taken
    cases turned
    unfold turn
    cases outcome : iterate vehicleId thread.message result with
    | error fault => exact .failed here outcome
    | ok pair =>
      obtain ⟨copied, emitted⟩ := pair
      cases emitted with
      | none => exact .ignored here outcome
      | some emitted => exact .accepted here outcome
  | emit =>
    cases here : thread.phase with
    | emit message =>
      simp only [step, here, Option.some.injEq] at taken
      subst taken
      exact .emit here
    | _ => simp [step, here] at taken

/-! ## What the thread is made of -/

/-- The messages the thread has accepted, the one its slots are yet to be called with included. -/
def accepted (thread : Thread) : List ZMQ.Message :=
  match thread.phase with
  | .emit message => thread.arrived ++ [message]
  | _ => thread.arrived

/-- The thread is as far as the loop is on what `recv` has returned. -/
structure Follows (vehicleId : Byte) (message : Storage ZMQ.sizeofMessage)
    (received : List (Option (List Byte))) (thread : Thread) : Prop where
  inside : (∀ fault, thread.phase ≠ .outside fault) →
    run vehicleId message received = .ok (thread.message, thread.accepted)
  outside : ∀ fault, thread.phase = .outside fault → run vehicleId message received = .error fault

theorem run_concat {vehicleId : Byte} {message copied : Storage ZMQ.sizeofMessage}
    {received : List (Option (List Byte))} {emitted : List ZMQ.Message}
    (before : run vehicleId message received = .ok (copied, emitted)) (result : Option (List Byte)) :
    run vehicleId message (received ++ [result]) =
      (iterate vehicleId copied result).map fun turned => (turned.1, emitted ++ turned.2.toList) :=
  Transducer.drive_concat_ok before result

theorem Follows.next {vehicleId : Byte} {message : Storage ZMQ.sizeofMessage}
    {received : List (Option (List Byte))} {thread next : Thread} {action : Action}
    (follows : thread.Follows vehicleId message received)
    (taken : thread.step vehicleId action = some next) :
    next.Follows vehicleId message (received ++ (recvResult action).toList) := by
  cases step_cases taken with
  | interrupt =>
    simp only [recvResult, Option.toList_none, List.append_nil]
    exact ⟨follows.inside, follows.outside⟩
  | thrown here | woken here | returned here | tested here =>
    have before := follows.inside (by simp [here])
    simp only [recvResult, Option.toList_none, List.append_nil]
    refine ⟨fun _ => ?_, by simp⟩
    simpa only [accepted, here] using before
  | ignored here turned | accepted here turned | failed here turned =>
    have before : run vehicleId message received = .ok (thread.message, thread.arrived) := by
      simpa only [accepted, here] using follows.inside (by simp [here])
    constructor
    all_goals simp [recvResult, run_concat before, turned, accepted, Except.map]
  | emit here =>
    have before := follows.inside (by simp [here])
    simp only [recvResult, Option.toList_none, List.append_nil]
    refine ⟨fun _ => ?_, by simp⟩
    simpa only [accepted, here] using before

theorem initial_follows (vehicleId : Byte) (message : Storage ZMQ.sizeofMessage) :
    (initial message).Follows vehicleId message [] where
  inside _ := rfl
  outside := by simp [initial]

/-- The thread runs the loop on what `recv` returns: an interruption only cuts its run short. -/
theorem run_follows {vehicleId : Byte} {message : Storage ZMQ.sizeofMessage} {actions : List Action}
    {thread : Thread} (taken : Run (Takes (step vehicleId)) (initial message) actions thread) :
    thread.Follows vehicleId message (actions.filterMap recvResult) := by
  induction taken with
  | start => exact initial_follows vehicleId message
  | @step _ _ action _ _ taken ih =>
    rw [List.filterMap_append]
    have next := Follows.next ih taken
    cases action <;> exact next

/-! ## After the interruption -/

/-- Interrupted, or returned already. -/
def Stopping (thread : Thread) : Prop := thread.interrupted = true ∨ thread.phase = .ended

/-- How many steps the thread may still take, by where it stands when it is interrupted. -/
def ahead : Phase → Nat
  | .recv => 3
  | .emit _ => 2
  | .delay => 1
  | .test => 1
  | _ => 0

def receivesAhead : Phase → Nat
  | .recv => 1
  | _ => 0

def emitsAhead : Phase → Nat
  | .recv => 1
  | .emit _ => 1
  | _ => 0

theorem Stopping.asked {thread : Thread} (stopping : thread.Stopping) (running : thread.phase ≠ .ended) :
    thread.interrupted = true :=
  stopping.resolve_right running

theorem Stopping.next {vehicleId : Byte} {thread next : Thread} {action : Action}
    (stopping : thread.Stopping) (taken : thread.step vehicleId action = some next) :
    next.Stopping ∧ ahead next.phase + (own action).toNat ≤ ahead thread.phase ∧
      receivesAhead next.phase + (receives action).toNat ≤ receivesAhead thread.phase ∧
      emitsAhead next.phase + (emits action).toNat ≤ emitsAhead thread.phase := by
  cases step_cases taken with
  | interrupt => exact ⟨.inl rfl, by simp [own, receives, emits]⟩
  | thrown here _ => exact ⟨.inr rfl, by simp [own, receives, emits, ahead, receivesAhead, emitsAhead, here]⟩
  | returned here _ => exact ⟨.inr rfl, by simp [own, receives, emits, ahead, receivesAhead, emitsAhead, here]⟩
  | woken here unasked | tested here unasked =>
    have asked := stopping.asked (by simp [here])
    rw [unasked] at asked
    cases asked
  | ignored here _ | accepted here _ | failed here _ | emit here =>
    refine ⟨.inl (stopping.asked (by simp [here])), ?_⟩
    simp [own, receives, emits, ahead, receivesAhead, emitsAhead, here]

theorem own_ranked (vehicleId : Byte) :
    Ranked (Takes (step vehicleId)) Stopping own fun thread => ahead thread.phase where
  kept _ _ _ stopping taken := (stopping.next taken).1
  pays _ _ _ stopping taken := (stopping.next taken).2.1

theorem receives_ranked (vehicleId : Byte) :
    Ranked (Takes (step vehicleId)) Stopping receives fun thread => receivesAhead thread.phase where
  kept _ _ _ stopping taken := (stopping.next taken).1
  pays _ _ _ stopping taken := (stopping.next taken).2.2.1

theorem emits_ranked (vehicleId : Byte) :
    Ranked (Takes (step vehicleId)) Stopping emits fun thread => emitsAhead thread.phase where
  kept _ _ _ stopping taken := (stopping.next taken).1
  pays _ _ _ stopping taken := (stopping.next taken).2.2.2

theorem ahead_le (phase : Phase) : ahead phase ≤ 3 ∧ receivesAhead phase ≤ 1 ∧ emitsAhead phase ≤ 1 := by
  cases phase <;> simp [ahead, receivesAhead, emitsAhead]

/-- The thread has not left its message object. -/
def Inside (thread : Thread) : Prop := ∀ fault, thread.phase ≠ .outside fault

/-- Any packet it is about fits into the message object. -/
def Fits (action : Action) : Prop :=
  ∀ packet, action = .recv (some packet) → packet.length ≤ ZMQ.sizeofMessage

theorem Inside.next {vehicleId : Byte} {thread next : Thread} {action : Action} (inside : thread.Inside)
    (fits : Fits action) (taken : thread.step vehicleId action = some next) : next.Inside := by
  intro fault
  cases step_cases taken with
  | interrupt => exact inside fault
  | @failed result _ here turned =>
    have safe : ∀ packet, result = some packet → packet.length ≤ ZMQ.sizeofMessage := by
      intro packet present
      exact fits packet (by rw [present])
    obtain ⟨outcome, success⟩ := (iterate_ok_iff vehicleId thread.message result).mpr safe
    rw [turned] at success
    cases success
  | _ => simp

theorem Inside.run {vehicleId : Byte} {start final : Thread} {actions : List Action}
    (inside : start.Inside) (taken : Run (Takes (step vehicleId)) start actions final)
    (fits : ∀ action ∈ actions, Fits action) : final.Inside := by
  induction taken with
  | start => exact inside
  | step _ taken ih =>
    have earlier := ih fun action member => fits action (List.mem_append_left _ member)
    exact earlier.next (fits _ (List.mem_append_right _ (List.mem_singleton_self _))) taken

/-- Until it has returned the thread can take a step of its own, if only on a timeout. -/
theorem Inside.lively (vehicleId : Byte) {thread : Thread} (inside : thread.Inside)
    (running : thread.phase ≠ .ended) :
    ∃ action next, (own action = true ∧ Fits action) ∧ thread.step vehicleId action = some next := by
  have fits {action : Action} (quiet : recvResult action = none ∨ action = .recv none) : Fits action := by
    rintro packet rfl
    rcases quiet with none | timeout
    · cases none
    · cases timeout
  cases here : thread.phase with
  | delay =>
    refine ⟨.wake, if thread.interrupted then { thread with phase := .ended, interrupted := false }
      else { thread with phase := .test }, ⟨rfl, fits (.inl rfl)⟩, ?_⟩
    cases asked : thread.interrupted <;> simp [step, here, asked]
  | test => exact ⟨.test, _, ⟨rfl, fits (.inl rfl)⟩, if_pos here⟩
  | recv => exact ⟨.recv none, _, ⟨rfl, fits (.inr rfl)⟩, if_pos here⟩
  | emit message =>
    exact ⟨.emit, { thread with phase := .test, arrived := thread.arrived ++ [message] },
      ⟨rfl, fits (.inl rfl)⟩, by simp [step, here]⟩
  | ended => exact absurd here running
  | outside fault => exact absurd here (inside fault)

/-- Only an interruption ends the thread. -/
theorem ended_interrupted {vehicleId : Byte} {message : Storage ZMQ.sizeofMessage} {actions : List Action}
    {thread : Thread} (taken : Run (Takes (step vehicleId)) (initial message) actions thread)
    (stopping : thread.Stopping) : Action.interrupt ∈ actions := by
  induction taken with
  | start =>
    rcases stopping with asked | gone
    · cases asked
    · cases gone
  | step _ taken ih =>
    rw [List.mem_append]
    cases step_cases taken with
    | interrupt => exact .inr (List.mem_singleton_self _)
    | thrown _ asked => exact .inl (ih (.inl asked))
    | returned _ asked => exact .inl (ih (.inl asked))
    | woken _ _ | tested _ _ | ignored _ _ | accepted _ _ | failed _ _ | emit _ =>
      have asked := Stopping.asked stopping (by simp)
      exact .inl (ih (.inl asked))

/-- The thread returns only if it is interrupted, and nothing it accepted is lost then: its
slots have been called with all that the loop emits for what `recv` returned. It takes
at most three more steps after an interruption, one packet and one call of the slots
among them, and as long as packets fit is never stuck on the way to its end. -/
theorem stop_complete (vehicleId : Byte) (message : Storage ZMQ.sizeofMessage) (actions : List Action)
    (thread : Thread) (taken : Run (Takes (step vehicleId)) (initial message) actions thread) :
    (thread.phase = .ended → .interrupt ∈ actions ∧
      ZmqSubscribe.run vehicleId message (actions.filterMap recvResult) = .ok (thread.message, thread.arrived)) ∧
    (thread.interrupted = true →
      (∀ later final, Run (Takes (step vehicleId)) thread later final →
        later.countP own ≤ 3 ∧ later.countP receives ≤ 1 ∧ later.countP emits ≤ 1 ∧
        ((∀ action ∈ actions ++ later, Fits action) → final.phase ≠ .ended →
          ∃ action next, own action = true ∧ final.step vehicleId action = some next)) ∧
      ((∀ action ∈ actions, Fits action) → ∃ later final, Run (Takes (step vehicleId)) thread later final ∧
        (∀ action ∈ later, own action = true) ∧ final.phase = .ended)) := by
  have started : (initial message).Inside := by simp [Inside, initial]
  constructor
  · intro gone
    refine ⟨ended_interrupted taken (.inr gone), ?_⟩
    simpa only [accepted, gone] using (run_follows taken).inside (by simp [gone])
  · intro asked
    have stopping : thread.Stopping := .inl asked
    constructor
    · intro later final after
      obtain ⟨few, one, once⟩ := ahead_le thread.phase
      have steps := (own_ranked vehicleId).spent stopping after
      have packets := (receives_ranked vehicleId).spent stopping after
      have calls := (emits_ranked vehicleId).spent stopping after
      refine ⟨by omega, by omega, by omega, fun fits running => ?_⟩
      obtain ⟨action, next, ⟨mine, _⟩, stepped⟩ :=
        (started.run (taken.trans after) fits).lively vehicleId running
      exact ⟨action, next, mine, stepped⟩
    · intro fits
      have onward (state : Thread) (held : state.Stopping ∧ state.Inside) (running : ¬ state.phase = .ended) :
          ∃ actions next, Run (Takes (step vehicleId)) state actions next ∧
            (∀ action ∈ actions, own action = true) ∧ (next.Stopping ∧ next.Inside) ∧
            ahead next.phase < ahead state.phase := by
        obtain ⟨action, next, ⟨mine, short⟩, stepped⟩ := held.2.lively vehicleId running
        have pays := (held.1.next stepped).2.1
        rw [mine, Bool.toNat_true] at pays
        exact ⟨[] ++ [action], next, .step .start stepped, by simp [mine],
          ⟨(held.1.next stepped).1, held.2.next short stepped⟩, pays⟩
      obtain ⟨later, final, after, mine, _, gone⟩ := Run.descends
        (fun thread : Thread => ahead thread.phase) (fun action => own action = true) onward ⟨stopping, started.run taken fits⟩
      exact ⟨later, final, after, mine, gone⟩

/-- Interrupted while it waits for a packet, the thread takes one more and passes it on. -/
theorem stop_complete_receiving :
    ∃ thread final,
      Run (Takes (step ZMQ.vehicleIdLeader)) (initial (.zeros 35)) [.wake, .test, .interrupt] thread ∧
      Run (Takes (step ZMQ.vehicleIdLeader)) thread [.recv (some leaderFrame), .emit, .test] final ∧
      final.phase = .ended ∧ [Action.recv (some leaderFrame), .emit, .test].countP own ≤ 3 ∧
      ZmqSubscribe.run ZMQ.vehicleIdLeader (.zeros 35) [some leaderFrame] =
        .ok (final.message, final.arrived) := by
  have executed : (execute (step ZMQ.vehicleIdLeader) (initial (.zeros 35))
      ([.wake, .test, .interrupt] ++ [.recv (some leaderFrame), .emit, .test])).map phase = some .ended := by
    decide +kernel
  obtain ⟨final, done, gone⟩ := Option.map_eq_some_iff.mp executed
  have both := execute_run done
  obtain ⟨thread, run, after⟩ := both.split
  obtain rfl := run.unique (execute_run rfl)
  have whole := stop_complete ZMQ.vehicleIdLeader (.zeros 35) _ _ both
  have stops := (stop_complete ZMQ.vehicleIdLeader (.zeros 35) _ _ run).2 rfl
  exact ⟨_, _, run, after, gone, (stops.1 _ _ after).1, (whole.1 gone).2⟩

end Thread

end VehicleRunner.Bundle.ZmqSubscribe
