import VehicleRunner.Foundation.Guarding
import VehicleRunner.Plugin.SmallSwarm

/-! When the loop of `SmallSwarm_Impl` broadcasts, told in real time: it compares two
readings of a clock whose offset to real time may have changed between them. -/

namespace VehicleRunner.Plugin.SmallSwarm.Cadence

open VehicleRunner.Foundation VehicleRunner.Bundle

/-- A reading of the system clock: the real time it is taken at, in milliseconds, and what
the reading differs from it by. That is the clock's adjustment so far and what the truncation
to whole milliseconds cut off, so that it may change by less than a millisecond where nobody
adjusts the clock. -/
structure Reading where
  real : ℚ
  offset : ℚ
  ms : Int
  exactly : (ms : ℚ) = real + offset

/-- An iteration that was finished: the real time since the previous broadcast at its
clock reading, and whether it broadcast. -/
structure Iteration where
  elapsed : ℚ
  published : Bool
  deriving DecidableEq

/-- The loop, its latest clock reading and that of its previous broadcast, the loop's
first one counting as such; then what it did so far, latest first. -/
structure Timed where
  swarm : State
  last : Reading
  published : Reading
  iterations : List Iteration := []
  publishes : List ℚ := []

def Timed.elapsed (timed : Timed) : ℚ := timed.last.real - timed.published.real

def started (first : Reading) : Timed where
  swarm := initial first.ms
  last := first
  published := first

inductive Action where
  | clock (reading : Reading)
  | other (action : SmallSwarm.Action)

/-- The clock is read, and the iteration is over unless a broadcast is due. -/
def readClock (reading : Reading) (swarm : State) (timed : Timed) : Timed :=
  let timed := { timed with swarm := swarm, last := reading }
  if swarm.point = .test then
    { timed with iterations := ⟨timed.elapsed, false⟩ :: timed.iterations }
  else timed

/-- The broadcast ends an iteration that was due for one. -/
def publish (swarm : State) (timed : Timed) : Timed :=
  { swarm := swarm
    last := timed.last
    published := timed.last
    iterations := ⟨timed.elapsed, true⟩ :: timed.iterations
    publishes := timed.last.real :: timed.publishes }

/-- Real time never goes back; the clock is read through its readings only. -/
def step (timed : Timed) : Action → Option Timed
  | .clock reading =>
    if timed.last.real ≤ reading.real then
      (SmallSwarm.step timed.swarm (.clock reading.ms)).map fun swarm => readClock reading swarm timed
    else none
  | .other (.clock _) => none
  | .other .publish => (SmallSwarm.step timed.swarm .publish).map fun swarm => publish swarm timed
  | .other action => (SmallSwarm.step timed.swarm action).map fun swarm => { timed with swarm := swarm }

/-- The loop is on its way to a broadcast. -/
def Publishing (point : Point) : Prop :=
  point = .getPosition ∨ point = .getVelocity ∨ point = .publish

def publishTerm : ℚ := 200

/-- The cadence in real time: an iteration broadcasts exactly if the term has passed, so
that none ends with an older broadcast behind it, and broadcasts are a term apart. -/
structure Cadent (timed : Timed) : Prop where
  finished : ∀ iteration ∈ timed.iterations, iteration.published = true ↔ publishTerm ≤ iteration.elapsed
  publishing : Publishing timed.swarm.point → publishTerm ≤ timed.elapsed
  fresh : timed.swarm.point = .test → timed.elapsed < publishTerm
  apart : timed.publishes.Pairwise fun later earlier => publishTerm ≤ later - earlier

/-- What the offset changed by since the previous broadcast does not carry the time since
then across the term, either way. -/
def Steady (timed : Timed) : Action → Prop
  | .clock reading =>
    publishTerm ≤ reading.real - timed.published.real ↔
      publishTerm ≤ reading.real - timed.published.real + (reading.offset - timed.published.offset)
  | .other _ => True

/-- Beside the cadence: the loop's variables hold the readings, and no broadcast is later
than the previous one. -/
structure Kept (timed : Timed) : Prop where
  cadent : Cadent timed
  pubMs : timed.swarm.pubMs = timed.published.ms
  nowMs : timed.swarm.nowMs = timed.last.ms
  ordered : ∀ time ∈ timed.publishes, time ≤ timed.published.real

theorem started_kept (first : Reading) : Kept (started first) where
  cadent :=
    { finished := by intro iteration member; cases member
      publishing := by
        intro publishing
        rcases publishing with here | here | here <;> cases here
      fresh := by
        intro _
        simp [Timed.elapsed, started, publishTerm]
      apart := .nil }
  pubMs := rfl
  nowMs := rfl
  ordered := by intro time member; cases member

/-- The comparison of the readings, in real time. -/
theorem due_iff (timed : Timed) (reading : Reading) :
    reading.ms - timed.published.ms ≥ publishTermMs ↔
      publishTerm ≤ reading.real - timed.published.real + (reading.offset - timed.published.offset) := by
  have whole : ((reading.ms - timed.published.ms : Int) : ℚ) =
      reading.real - timed.published.real + (reading.offset - timed.published.offset) := by
    rw [Int.cast_sub, reading.exactly, timed.published.exactly]
    ring
  rw [← whole, publishTerm, publishTermMs, ge_iff_le]
  exact_mod_cast Iff.rfl

/-- A step that reads no clock and broadcasts nothing. -/
structure Untimed (swarm next : State) : Prop where
  pubMs : next.pubMs = swarm.pubMs
  nowMs : next.nowMs = swarm.nowMs
  publishing : Publishing next.point → Publishing swarm.point
  test : next.point = .test → swarm.point = .test

theorem untimed {swarm next : State} {action : SmallSwarm.Action}
    (taken : SmallSwarm.step swarm action = some next) (quiet : ∀ nowMs, action ≠ .clock nowMs)
    (silent : action ≠ .publish) : Untimed swarm next := by
  cases SmallSwarm.step_cases taken with
  | slot message => exact ⟨rfl, rfl, id, id⟩
  | idle here empty => exact ⟨rfl, rfl, by simp [Publishing], nofun⟩
  | ready here filled => exact ⟨rfl, rfl, by simp [Publishing], nofun⟩
  | popped here front => exact ⟨rfl, rfl, by simp [Publishing], nofun⟩
  | undefined here empty => exact ⟨rfl, rfl, by simp [Publishing], nofun⟩
  | due here late => exact absurd rfl (quiet _)
  | early here soon => exact absurd rfl (quiet _)
  | getPosition here => exact ⟨rfl, rfl, fun _ => .inl here, nofun⟩
  | getVelocity here => exact ⟨rfl, rfl, fun _ => .inr (.inl here), nofun⟩
  | publish here => exact absurd rfl silent

/-- Everything a timed step can be. -/
theorem step_cases {timed next : Timed} {action : Action} (taken : step timed action = some next) :
    (∃ reading swarm, action = .clock reading ∧ timed.last.real ≤ reading.real ∧
      SmallSwarm.step timed.swarm (.clock reading.ms) = some swarm ∧
      next = readClock reading swarm timed) ∨
    (∃ swarm, action = .other .publish ∧ SmallSwarm.step timed.swarm .publish = some swarm ∧
      next = publish swarm timed) ∨
    (∃ other swarm, action = .other other ∧ Untimed timed.swarm swarm ∧
      next = { timed with swarm := swarm }) := by
  cases action with
  | clock reading =>
    obtain ⟨ordered, stepped⟩ := Option.ite_none_right_eq_some.mp taken
    obtain ⟨swarm, moved, same⟩ := Option.map_eq_some_iff.mp stepped
    exact .inl ⟨reading, swarm, rfl, ordered, moved, same.symm⟩
  | other action =>
    cases action with
    | clock nowMs => cases taken
    | publish =>
      obtain ⟨swarm, moved, same⟩ := Option.map_eq_some_iff.mp taken
      exact .inr (.inl ⟨swarm, rfl, moved, same.symm⟩)
    | _ =>
      simp only [step] at taken
      obtain ⟨swarm, moved, same⟩ := Option.map_eq_some_iff.mp taken
      exact .inr (.inr ⟨_, swarm, rfl, untimed moved (by simp) (by simp), same.symm⟩)

/-- An iteration records rightly whether it broadcast. -/
theorem finished_cons {iterations : List Iteration} {iteration : Iteration}
    (finished : ∀ other ∈ iterations, other.published = true ↔ publishTerm ≤ other.elapsed)
    (rightly : iteration.published = true ↔ publishTerm ≤ iteration.elapsed) :
    ∀ other ∈ iteration :: iterations, other.published = true ↔ publishTerm ≤ other.elapsed := by
  intro other member
  rcases List.mem_cons.mp member with rfl | earlier
  · exact rightly
  · exact finished other earlier

theorem Kept.readClock {timed : Timed} {reading : Reading} {swarm : State} (kept : Kept timed)
    (steady : Steady timed (.clock reading))
    (moved : SmallSwarm.step timed.swarm (.clock reading.ms) = some swarm) :
    Kept (Cadence.readClock reading swarm timed) := by
  have exactly := due_iff timed reading
  rw [← kept.pubMs] at exactly
  cases SmallSwarm.step_cases moved with
  | due here late =>
    have passed : publishTerm ≤ reading.real - timed.published.real := steady.mpr (exactly.mp late)
    exact ⟨⟨kept.cadent.finished, fun _ => passed, nofun, kept.cadent.apart⟩, kept.pubMs, rfl, kept.ordered⟩
  | early here soon =>
    have before : ¬ publishTerm ≤ reading.real - timed.published.real :=
      fun passed => soon (exactly.mpr (steady.mp passed))
    refine ⟨⟨?_, ?_, fun _ => lt_of_not_ge before, kept.cadent.apart⟩, kept.pubMs, rfl, kept.ordered⟩
    · exact finished_cons kept.cadent.finished ⟨nofun, fun passed => absurd passed before⟩
    · rintro (here | here | here) <;> cases here

theorem Kept.publish {timed : Timed} {swarm : State} (kept : Kept timed)
    (moved : SmallSwarm.step timed.swarm .publish = some swarm) :
    Kept (Cadence.publish swarm timed) := by
  cases SmallSwarm.step_cases moved with
  | publish here =>
    have passed : publishTerm ≤ timed.last.real - timed.published.real :=
      kept.cadent.publishing (.inr (.inr here))
    have term : (0 : ℚ) < publishTerm := by norm_num [publishTerm]
    have spaced : ∀ earlier ∈ timed.publishes, publishTerm ≤ timed.last.real - earlier := by
      intro earlier member
      have ordered := kept.ordered earlier member
      linarith
    refine ⟨⟨?_, ?_, ?_, .cons spaced kept.cadent.apart⟩, kept.nowMs, kept.nowMs, ?_⟩
    · exact finished_cons kept.cadent.finished ⟨fun _ => passed, fun _ => rfl⟩
    · rintro (here | here | here) <;> cases here
    · intro _
      simpa [Timed.elapsed, Cadence.publish] using term
    · intro time member
      rcases List.mem_cons.mp member with rfl | earlier
      · exact le_refl _
      · have spacing := spaced time earlier
        exact le_of_lt (by simp only [Cadence.publish]; linarith)

theorem Kept.step {timed next : Timed} {action : Action} (kept : Kept timed)
    (steady : Steady timed action) (taken : Cadence.step timed action = some next) : Kept next := by
  rcases step_cases taken with
    ⟨reading, swarm, rfl, _, moved, rfl⟩ | ⟨swarm, rfl, moved, rfl⟩ | ⟨other, swarm, rfl, untimed, rfl⟩
  · exact kept.readClock steady moved
  · exact kept.publish moved
  · have cadent := kept.cadent
    exact ⟨⟨cadent.finished, fun publishing => cadent.publishing (untimed.publishing publishing),
      fun test => cadent.fresh (untimed.test test), cadent.apart⟩, untimed.pubMs.trans kept.pubMs,
      untimed.nowMs.trans kept.nowMs, kept.ordered⟩

/-- A reading whose offset carries the time across the term makes for a broadcast too
early, or for an iteration that leaves one out. -/
theorem Kept.broken {timed next : Timed} {action : Action} (kept : Kept timed)
    (unsteady : ¬ Steady timed action) (taken : Cadence.step timed action = some next) :
    ¬ Cadent next := by
  rcases step_cases taken with
    ⟨reading, swarm, rfl, _, moved, rfl⟩ | ⟨swarm, rfl, moved, rfl⟩ | ⟨other, swarm, rfl, untimed, rfl⟩
  · have exactly := due_iff timed reading
    rw [← kept.pubMs] at exactly
    intro cadent
    apply unsteady
    cases SmallSwarm.step_cases moved with
    | due here late =>
      exact ⟨fun _ => exactly.mp late, fun _ => cadent.publishing (.inl rfl)⟩
    | early here soon =>
      have fresh := cadent.fresh rfl
      refine ⟨fun passed => absurd passed (not_le_of_gt fresh), fun passed => absurd (exactly.mpr passed) soon⟩
  · exact absurd trivial unsteady
  · exact absurd trivial unsteady

/-- The cadence is kept in real time in every state of a run exactly when no change of the
offset carries the time since a broadcast across the term. -/
theorem cadence_iff (first : Reading) (actions : List Action) (timed : Timed)
    (run : Run (Takes step) (started first) actions timed) :
    Throughout (Takes step) (started first) actions Cadent ↔
      Run (Guarded Steady (Takes step)) (started first) actions timed :=
  run.throughout_iff (started_kept first) (fun _ kept => kept.cadent)
    (fun _ _ _ kept steady taken => kept.step steady taken)
    (fun _ _ _ kept unsteady taken => kept.broken unsteady taken)

/-- Readings of one offset are steady throughout: a clock that is never adjusted, read at
instants that are cut off by the same amount. -/
theorem constant_guarded {first : Reading} {actions : List Action} {timed : Timed}
    (run : Run (Takes step) (started first) actions timed)
    (constant : ∀ reading, Action.clock reading ∈ actions → reading.offset = first.offset) :
    Run (Guarded Steady (Takes step)) (started first) actions timed ∧
      timed.last.offset = first.offset ∧ timed.published.offset = first.offset := by
  induction run with
  | start => exact ⟨.start, rfl, rfl⟩
  | @step actions before action next earlier taken ih =>
    obtain ⟨guarded, last, published⟩ := ih fun reading member =>
      constant reading (List.mem_append_left _ member)
    rcases step_cases taken with
      ⟨reading, swarm, rfl, _, _, rfl⟩ | ⟨swarm, rfl, _, rfl⟩ | ⟨other, swarm, rfl, _, rfl⟩
    · have same := constant reading (by simp)
      have steady : Steady before (.clock reading) := by
        rw [Steady, same, published, sub_self, add_zero]
      refine ⟨.step guarded ⟨steady, taken⟩, ?_⟩
      unfold readClock
      split <;> exact ⟨same, published⟩
    · exact ⟨.step guarded ⟨trivial, taken⟩, last, last⟩
    · exact ⟨.step guarded ⟨trivial, taken⟩, last, published⟩

/-- A reading in whole milliseconds. -/
def reading (real offset : Int) : Reading := ⟨real, offset, real + offset, by push_cast; rfl⟩

/-- A clock left alone and read on whole milliseconds, once too early for a broadcast and
once in time. -/
def leftAlone : List Action :=
  [.other .test, .clock (reading 100 50), .other .test, .clock (reading 200 50),
    .other (.getPosition none), .other (.getVelocity none), .other .publish]

theorem cadence_leftAlone :
    ∃ timed, Run (Takes step) (started (reading 0 50)) leftAlone timed ∧
      Throughout (Takes step) (started (reading 0 50)) leftAlone Cadent := by
  have run : Run (Takes step) (started (reading 0 50)) leftAlone _ := execute_run rfl
  refine ⟨_, run, (cadence_iff _ _ _ run).mpr (constant_guarded run ?_).1⟩
  intro other member
  simp only [leftAlone, List.mem_cons, Action.clock.injEq, reduceCtorEq, List.not_mem_nil, or_false,
    false_or] at member
  rcases member with rfl | rfl <;> rfl

/-- A clock set forward by a second after the loop's first reading. -/
theorem cadence_lost :
    ¬ ∀ (first : Reading) (actions : List Action) (timed : Timed),
      Run (Takes step) (started first) actions timed →
      Throughout (Takes step) (started first) actions Cadent := by
  intro cadent
  have run : Run (Takes step) (started (reading 0 0))
      [.other .test, .clock (reading 100 1000)] _ := execute_run rfl
  have last := cadent _ _ _ run _ [] _ (List.append_nil _).symm run
  have early : publishTerm ≤ (reading 100 1000).real - (reading 0 0).real := last.publishing (.inl rfl)
  norm_num [publishTerm, reading] at early

end VehicleRunner.Plugin.SmallSwarm.Cadence
