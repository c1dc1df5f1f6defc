import VehicleRunner.App.Execution

/-! What executions of `AppMain::Exec` send. The message is a union as long as the payload,
initialised through its shorter member: behind the features it is the memory it was placed
in. No execution hands it to the library, since no vehicle that the program starts comes to
hold a plugin. -/

namespace VehicleRunner.App

open VehicleRunner.Foundation VehicleRunner.Misc VehicleRunner.Bundle

/-- The bytes of the message's place that no initialiser covers. -/
def unassigned (memory : Storage MavVehicle.extensionPayloadLength) :
    Storage (MavVehicle.extensionPayloadLength - 3) :=
  memory.slice 3 (MavVehicle.extensionPayloadLength - 3) (by decide)

/-- One execution: how the libraries answer its start, the memory its message is placed
in, and the iterations it gets to. -/
structure Execution where
  answers : Answers
  memory : Storage MavVehicle.extensionPayloadLength
  turns : List Turn

/-- What came of each `PublishMessage`; an execution cut short is one of fewer iterations. -/
def Execution.published (execution : Execution) (app : AppMain) :
    List (Int × Option MavVehicle.V2Extension) :=
  (exec execution.answers (unassigned execution.memory) execution.turns app).toOption.getD []

/-- The extension messages handed to the library. -/
def Execution.sent (execution : Execution) (app : AppMain) : List MavVehicle.V2Extension :=
  (execution.published app).filterMap Prod.snd

/-- What would come of each `PublishMessage` of a loop that starts from any components. -/
def Execution.publishedFrom (execution : Execution) (feature : MAV.Feature) (world : MavVehicle.World)
    (components : Components) : List (Int × Option MavVehicle.V2Extension) :=
  (loop (feature.stream (unassigned execution.memory)) world components execution.turns).toOption.getD []

/-- What an iteration hands to the library if it can. -/
def broadcast (stream : Storage MavVehicle.extensionPayloadLength) : MavVehicle.V2Extension where
  messageType := MAV.typeFeature
  targetNetwork := 0
  targetSystem := 0
  targetComponent := MAV.compIdGcs
  payload := stream

theorem publishMessage_broadcast {passthru : Option MavVehicle.Plugin} {accepted : Bool}
    {stream : Storage MavVehicle.extensionPayloadLength} {message : MavVehicle.V2Extension}
    (handed : (MavVehicle.publishMessage passthru accepted MAV.compIdGcs MAV.typeFeature stream).2 =
      some message) : message = broadcast stream := by
  unfold MavVehicle.publishMessage at handed
  cases passthru with
  | none => cases handed
  | some plugin =>
    cases accepted with
    | true => exact (Option.some.inj handed).symm
    | false => exact (Option.some.inj handed).symm

/-- A loop sends one and the same message, whatever becomes of its vehicle. -/
theorem loop_broadcast (stream : Storage MavVehicle.extensionPayloadLength) (world : MavVehicle.World)
    (components : Components) (turns : List Turn) :
    Avoids (fun _ => False) (loop stream world components turns) fun published =>
      ∀ outcome ∈ published, ∀ message, outcome.2 = some message → message = broadcast stream := by
  induction turns generalizing world components with
  | nil =>
    intro outcome member
    cases member
  | cons turn turns ih =>
    refine (Avoids.anything _).bind fun later _ => ?_
    refine (Avoids.anything _).bind fun vehicle _ => ?_
    refine (ih later.1 later.2).bind fun published others => ?_
    intro outcome member message handed
    rcases List.mem_cons.mp member with rfl | rest
    · exact publishMessage_broadcast handed
    · exact others outcome rest message handed

/-- Any message would carry the features, and behind them the memory it was placed in. -/
theorem Execution.publishedFrom_payload (execution : Execution) {feature : MAV.Feature}
    {world : MavVehicle.World} {components : Components} {code : Int} {message : MavVehicle.V2Extension}
    (handed : (code, some message) ∈ execution.publishedFrom feature world components) :
    message.payload.bytes = feature.bytes ++ (unassigned execution.memory).bytes := by
  unfold Execution.publishedFrom at handed
  cases ran : loop (feature.stream (unassigned execution.memory)) world components execution.turns with
  | error crash =>
    rw [ran] at handed
    cases handed
  | ok published =>
    rw [ran] at handed
    rw [(loop_broadcast _ _ _ _).ensured ran _ handed message rfl]
    rfl

theorem loop_missing (stream : Storage MavVehicle.extensionPayloadLength) (world : MavVehicle.World)
    {components : Components} (missing : components.mavVehicle = none) (turns : List Turn) :
    loop stream world components turns = if turns = [] then .ok [] else .error (.null .mavVehicle) := by
  cases turns with
  | nil => rfl
  | cons turn turns => simp [loop, notify, missing, follow, bind, Except.bind]

/-- Notifications plug nothing in, so that every iteration is refused. -/
theorem loop_refused (stream : Storage MavVehicle.extensionPayloadLength) {world : MavVehicle.World}
    {components : Components} {state : MavVehicle.State} (held : components.mavVehicle = some state)
    (unplugged : MavVehicle.Unplugged { world := world, state := state, delivered := [] })
    (turns : List Turn) :
    loop stream world components turns = .ok (turns.map fun _ => (-EUNATCH, none)) := by
  induction turns generalizing world components state with
  | nil => rfl
  | cons turn turns ih =>
    obtain ⟨later, handled, still⟩ := unplugged.handlesAll turn.notified
    have notified : notify turn.notified world components =
        .ok (later.world, { components with mavVehicle := some later.state }) := by
      simp only [notify, held, handled]
    have again : MavVehicle.Unplugged { world := later.world, state := later.state, delivered := [] } :=
      ⟨⟨still.idle.executed, still.idle.unheld, still.idle.unregistered, rfl⟩, still.telemetry,
        still.passthru⟩
    have rest : loop stream later.world { components with mavVehicle := some later.state } turns =
        .ok (turns.map fun _ => (-EUNATCH, none)) := ih rfl again
    simp only [loop, notified, follow, bind, Except.bind, MavVehicle.publishMessage, still.passthru, rest]
    rfl

variable {lexicalCast : String → Option (BitVec 16)} {made : Nat → Nat → Bool} {file : ConfigFile}
  {app : AppMain} {feature : MAV.Feature} {components : Components}

theorem exec_started {answers : Answers}
    (started : startup answers app.components = .ok (feature, components))
    (rest : Storage (MavVehicle.extensionPayloadLength - 3)) (turns : List Turn) :
    exec answers rest turns app = loop (feature.stream rest) answers.discovered components turns := by
  simp only [exec, started, bind, Except.bind]

/-- The vehicle the program started holds no plugin in any iteration. -/
theorem Execution.refused (execution : Execution)
    (returned : appMain lexicalCast made file = .returned app)
    (started : startup execution.answers app.components = .ok (feature, components)) :
    ∀ outcome ∈ execution.published app, outcome = (-EUNATCH, none) := by
  have begun : Started execution.answers app.components components :=
    (startup_avoids (appMain_vehicle returned).1).ensured started
  intro outcome member
  rw [Execution.published, exec_started started] at member
  cases vehicle : app.mavVehicle with
  | none =>
    have missing : components.mavVehicle = none := by
      rw [begun.1, AppMain.components, vehicle]
      rfl
    rw [loop_missing _ _ missing] at member
    split at member
    · cases member
    · cases member
  | some config =>
    have held : components.mavVehicle =
        some (MavVehicle.exec execution.answers.opened { config := config }).2 := by
      rw [begun.1, AppMain.components, vehicle]
      rfl
    rw [loop_refused _ held (MavVehicle.exec_unplugged _ _ _)] at member
    obtain ⟨_, _, same⟩ := List.mem_map.mp member
    exact same.symm

/-- Two executions constructed from one configuration file that start with the same features,
over any memory and with whatever the library notifies their vehicles of: every payload sent
in one is the one sent in the other, each call of `PublishMessage` being refused in both. -/
theorem payloads_agree (lexicalCast : String → Option (BitVec 16))
    (firstMade secondMade : Nat → Nat → Bool) (file : ConfigFile) (firstApp secondApp : AppMain)
    (first second : Execution) (feature : MAV.Feature) (firstComponents secondComponents : Components)
    (firstReturned : appMain lexicalCast firstMade file = .returned firstApp)
    (secondReturned : appMain lexicalCast secondMade file = .returned secondApp)
    (firstStarted : startup first.answers firstApp.components = .ok (feature, firstComponents))
    (secondStarted : startup second.answers secondApp.components = .ok (feature, secondComponents)) :
    (∀ message ∈ first.sent firstApp, ∀ other ∈ second.sent secondApp,
        message.payload = other.payload) ∧
      (∀ outcome ∈ first.published firstApp, outcome = (-EUNATCH, none)) ∧
      ∀ outcome ∈ second.published secondApp, outcome = (-EUNATCH, none) := by
  have refused := first.refused firstReturned firstStarted
  refine ⟨?_, refused, second.refused secondReturned secondStarted⟩
  intro message sent
  obtain ⟨outcome, member, handed⟩ := List.mem_filterMap.mp sent
  rw [refused outcome member] at handed
  cases handed

/-- A vehicle and no plugins, as without a configuration file. -/
def vehicleOnly : AppMain := { mavVehicle := some ⟨"", false, false⟩ }

/-- One iteration, before which an autopilot is found and connects, with the message in
memory that held `fill`. -/
def oneTurn (fill : Byte) : Execution where
  answers := ⟨true, MavVehicle.connectedWorld, true, true, fun _ => true⟩
  memory := ⟨List.replicate 249 fill, rfl⟩
  turns := [⟨[.newSystem (some 1), .connectionChanged 1 true (some 2)], true⟩]

theorem payloads_agree_sample :
    ((oneTurn 0).published vehicleOnly).length = 1 ∧ ((oneTurn 255).published vehicleOnly).length = 1 ∧
      (∀ message ∈ (oneTurn 0).sent vehicleOnly, ∀ other ∈ (oneTurn 255).sent vehicleOnly,
        message.payload = other.payload) ∧
      ∀ outcome ∈ (oneTurn 0).published vehicleOnly, outcome = (-EUNATCH, none) := by
  obtain ⟨agree, refused, _⟩ := payloads_agree (fun _ => none) (fun _ _ => true) (fun _ _ => true) .missing
    vehicleOnly vehicleOnly (oneTurn 0) (oneTurn 255) {} _ _ rfl rfl rfl rfl
  exact ⟨rfl, rfl, agree, refused⟩

end VehicleRunner.App
