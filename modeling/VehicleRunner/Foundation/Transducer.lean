import VehicleRunner.Foundation.Transition

/-! A loop that carries a state from input to input, may fault, and emits at most
one output an input; and when its outputs are those of a stateless decoder. -/

namespace VehicleRunner.Foundation.Transducer

universe u v w z
variable {State : Type u} {Input : Type v} {Output : Type w} {Failure : Type z}

/-- Feed a finite input sequence through the loop body and collect the outputs. -/
def drive (body : State → Input → Except Failure (State × Option Output)) :
    State → List Input → Except Failure (State × List Output)
  | state, [] => .ok (state, [])
  | state, input :: inputs => do
    let (next, output) ← body state input
    let (final, outputs) ← drive body next inputs
    return (final, output.toList ++ outputs)

variable {body : State → Input → Except Failure (State × Option Output)}

theorem drive_cons_ok {state next : State} {input : Input} {output : Option Output}
    (stepped : body state input = .ok (next, output)) (inputs : List Input) :
    drive body state (input :: inputs) =
      (drive body next inputs).map fun result => (result.1, output.toList ++ result.2) := by
  rw [drive, stepped]
  rfl

theorem drive_cons_error {state : State} {input : Input} {failure : Failure}
    (failed : body state input = .error failure) (inputs : List Input) :
    drive body state (input :: inputs) = .error failure := by
  rw [drive, failed]
  rfl

/-- One more input, in the state the sequence so far has led to. -/
theorem drive_concat_ok {state middle : State} {inputs : List Input} {outputs : List Output}
    (driven : drive body state inputs = .ok (middle, outputs)) (input : Input) :
    drive body state (inputs ++ [input]) =
      (body middle input).map fun result => (result.1, outputs ++ result.2.toList) := by
  induction inputs generalizing state outputs with
  | nil =>
    cases driven
    rw [List.nil_append, drive]
    cases body middle input with
    | error failure => rfl
    | ok result => simp [drive, bind, Except.bind, Except.map, pure, Except.pure]
  | cons first inputs ih =>
    cases stepped : body state first with
    | error failure =>
      rw [drive_cons_error stepped] at driven
      cases driven
    | ok result =>
      obtain ⟨next, output⟩ := result
      rw [drive_cons_ok stepped] at driven
      cases rest : drive body next inputs with
      | error failure =>
        rw [rest] at driven
        cases driven
      | ok final =>
        rw [rest] at driven
        cases driven
        rw [List.cons_append, drive_cons_ok stepped, ih rest]
        cases body final.1 input with
        | error failure => rfl
        | ok last => simp [Except.map]

/-- A condition on every input of the sequence and the state it finds. -/
def Along (body : State → Input → Except Failure (State × Option Output))
    (Meets : State → Input → Prop) : State → List Input → Prop
  | _, [] => True
  | state, input :: inputs => Meets state input ∧
      ∀ next output, body state input = .ok (next, output) → Along body Meets next inputs

theorem along_cons_ok {Meets : State → Input → Prop} {state next : State} {input : Input}
    {output : Option Output} (stepped : body state input = .ok (next, output))
    (inputs : List Input) :
    Along body Meets state (input :: inputs) ↔
      Meets state input ∧ Along body Meets next inputs := by
  rw [Along]
  constructor
  · rintro ⟨meets, rest⟩
    exact ⟨meets, rest next output stepped⟩
  · rintro ⟨meets, rest⟩
    refine ⟨meets, ?_⟩
    intro other emitted same
    rw [stepped] at same
    cases same
    exact rest

/-- Observe only part of what the body emits. -/
def mapOutput {Seen : Type w} (view : Output → Seen)
    (body : State → Input → Except Failure (State × Option Output)) :
    State → Input → Except Failure (State × Option Seen) :=
  fun state input => (body state input).map fun result => (result.1, result.2.map view)

theorem drive_mapOutput {Seen : Type w} (view : Output → Seen) (state : State)
    (inputs : List Input) :
    drive (mapOutput view body) state inputs =
      (drive body state inputs).map fun result => (result.1, result.2.map view) := by
  induction inputs generalizing state with
  | nil => rfl
  | cons input inputs ih =>
    cases outcome : body state input with
    | error failure =>
      rw [drive_cons_error outcome, drive_cons_error (by rw [mapOutput, outcome]; rfl)]
      rfl
    | ok result =>
      obtain ⟨next, output⟩ := result
      have seen : mapOutput view body state input = .ok (next, output.map view) := by
        rw [mapOutput, outcome]
        rfl
      rw [drive_cons_ok outcome, drive_cons_ok seen, ih]
      cases drive body next inputs with
      | error failure => rfl
      | ok result => cases output <;> rfl

theorem along_mapOutput {Seen : Type w} (view : Output → Seen) {Meets : State → Input → Prop}
    (state : State) (inputs : List Input) :
    Along (mapOutput view body) Meets state inputs ↔ Along body Meets state inputs := by
  induction inputs generalizing state with
  | nil => exact Iff.rfl
  | cons input inputs ih =>
    cases outcome : body state input with
    | error failure =>
      rw [Along, Along, mapOutput, outcome]
      simp [Except.map]
    | ok result =>
      obtain ⟨next, output⟩ := result
      have seen : mapOutput view body state input = .ok (next, output.map view) := by
        rw [mapOutput, outcome]
        rfl
      rw [along_cons_ok outcome, along_cons_ok seen, ih next]

/-- A loop whose body faults on some inputs only, whatever its state, gets
through a sequence exactly when no such input occurs. -/
theorem drive_ok_iff (Safe : Input → Prop)
    (exact : ∀ state input, (∃ result, body state input = .ok result) ↔ Safe input)
    (state : State) (inputs : List Input) :
    (∃ result, drive body state inputs = .ok result) ↔ ∀ input ∈ inputs, Safe input := by
  induction inputs generalizing state with
  | nil => simp [drive]
  | cons input inputs ih =>
    by_cases safe : Safe input
    · obtain ⟨⟨next, output⟩, stepped⟩ := (exact state input).mpr safe
      rw [drive_cons_ok stepped, List.forall_mem_cons, ← ih next]
      constructor
      · rintro ⟨result, success⟩
        cases rest : drive body next inputs with
        | error failure => simp [rest, Except.map] at success
        | ok result => exact ⟨safe, result, rfl⟩
      · rintro ⟨_, result, success⟩
        exact ⟨_, by rw [success]; rfl⟩
    · cases outcome : body state input with
      | ok result => exact absurd ((exact state input).mp ⟨result, outcome⟩) safe
      | error failure =>
        rw [drive_cons_error outcome]
        simp [safe]

/-- The loop body agrees with the decoder on an input, or emits where the
decoder is silent. -/
structure Decodes (body : State → Input → Except Failure (State × Option Output))
    (decode : Input → Option Output) (Agrees : State → Input → Prop) (Admits : Input → Prop) :
    Prop where
  agrees : ∀ state input, Admits input → Agrees state input →
    ∃ next, body state input = .ok (next, decode input)
  differs : ∀ state input, Admits input → ¬ Agrees state input →
    decode input = none ∧ ∃ next output, body state input = .ok (next, some output)

variable {decode : Input → Option Output} {Agrees : State → Input → Prop} {Admits : Input → Prop}

/-- Outputs are never lost: the loop emits at least as often as the decoder. -/
theorem Decodes.drive_ok (decodes : Decodes body decode Agrees Admits) (state : State)
    (inputs : List Input) (admitted : ∀ input ∈ inputs, Admits input) :
    ∃ final outputs, drive body state inputs = .ok (final, outputs) ∧
      (inputs.filterMap decode).length ≤ outputs.length := by
  induction inputs generalizing state with
  | nil => exact ⟨state, [], rfl, Nat.le_refl _⟩
  | cons input inputs ih =>
    obtain ⟨first, others⟩ := List.forall_mem_cons.mp admitted
    by_cases agree : Agrees state input
    · obtain ⟨next, stepped⟩ := decodes.agrees state input first agree
      obtain ⟨final, outputs, success, bound⟩ := ih next others
      refine ⟨final, (decode input).toList ++ outputs, ?_, ?_⟩
      · rw [drive_cons_ok stepped, success]
        rfl
      · cases same : decode input <;> simp [same, bound]
    · obtain ⟨silent, next, output, stepped⟩ := decodes.differs state input first agree
      obtain ⟨final, outputs, success, bound⟩ := ih next others
      refine ⟨final, output :: outputs, ?_, ?_⟩
      · rw [drive_cons_ok stepped, success]
        rfl
      · rw [List.filterMap_cons_none silent, List.length_cons]
        exact Nat.le_succ_of_le bound

/-- The outputs are exactly the decoder's if and only if the body agreed with it
at every step. -/
theorem Decodes.drive_eq_iff (decodes : Decodes body decode Agrees Admits) (state : State)
    (inputs : List Input) (admitted : ∀ input ∈ inputs, Admits input) :
    (∃ final, drive body state inputs = .ok (final, inputs.filterMap decode)) ↔
      Along body Agrees state inputs := by
  induction inputs generalizing state with
  | nil => exact ⟨fun _ => trivial, fun _ => ⟨state, rfl⟩⟩
  | cons input inputs ih =>
    obtain ⟨first, others⟩ := List.forall_mem_cons.mp admitted
    by_cases agree : Agrees state input
    · obtain ⟨next, stepped⟩ := decodes.agrees state input first agree
      obtain ⟨final, outputs, success, _⟩ := decodes.drive_ok next inputs others
      have split : (input :: inputs).filterMap decode =
          (decode input).toList ++ inputs.filterMap decode := by
        cases same : decode input <;> simp [same]
      rw [along_cons_ok stepped, ← ih next others, drive_cons_ok stepped, success, split]
      simp [Except.map, agree]
    · obtain ⟨silent, next, output, stepped⟩ := decodes.differs state input first agree
      obtain ⟨final, outputs, success, bound⟩ := decodes.drive_ok next inputs others
      rw [along_cons_ok stepped, drive_cons_ok stepped, success, List.filterMap_cons_none silent]
      constructor
      · rintro ⟨_, same⟩
        have emitted := congrArg List.length (congrArg Prod.snd (Except.ok.inj same))
        simp only [Option.toList_some, List.length_append, List.length_singleton] at emitted
        omega
      · rintro ⟨meets, _⟩
        exact absurd meets agree

end VehicleRunner.Foundation.Transducer
