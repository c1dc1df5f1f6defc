import VehicleRunner.Foundation.Transition
import VehicleRunner.Foundation.Storage
import VehicleRunner.Misc.Errno

/-! `MavVehicle_Impl`: the smart pointers it owns, what its callbacks do with them,
and what its getters answer. What the autopilot library reports is an argument. -/

namespace VehicleRunner.Bundle.MavVehicle

open VehicleRunner.Foundation VehicleRunner.Misc

structure Config where
  connectUrl : String
  logWoSd : Bool
  planWoSd : Bool
  deriving DecidableEq

structure PositionLlh where
  latitudeDeg : Double := .zeros 8
  longitudeDeg : Double := .zeros 8
  mslAltitudeM : Single := .zeros 4
  relAltitudeM : Single := .zeros 4
  deriving DecidableEq

structure VelocityNed where
  northMps : Single := .zeros 4
  eastMps : Single := .zeros 4
  downMps : Single := .zeros 4
  deriving DecidableEq

/-- What a telemetry object of the library reports when asked. -/
structure Telemetry where
  latitudeDeg : Double
  longitudeDeg : Double
  absoluteAltitudeM : Single
  relativeAltitudeM : Single
  northMS : Single
  eastMS : Single
  downMS : Single
  deriving DecidableEq

def Telemetry.zeros : Telemetry :=
  ⟨.zeros 8, .zeros 8, .zeros 4, .zeros 4, .zeros 4, .zeros 4, .zeros 4⟩

/-- Identity of a system the library has discovered. -/
abbrev SystemRef := Nat

/-- Identity of a connection-callback registration. -/
abbrev IsConnectedHandle := Nat

/-- The library's side: each system's state, and the connection callbacks
registered on it. -/
structure World where
  isConnected : SystemRef → Bool
  systemId : SystemRef → Byte
  telemetry : SystemRef → Telemetry
  callbacks : List (SystemRef × IsConnectedHandle)

inductive Pointer where
  | mavsdk | system | param | logging | passthru
  deriving DecidableEq

/-- What ends the process: a null pointer followed, or a joinable thread object
destroyed. -/
inductive Crash where
  | null (pointer : Pointer)
  | terminate
  deriving DecidableEq

def deref {Target : Type} (pointer : Pointer) : Option Target → Except Crash Target
  | none => .error (.null pointer)
  | some target => .ok target

structure Mavsdk where
  intercepting : Bool
  newSystemSubscribed : Bool
  deriving DecidableEq

/-- A plugin object made for a system, and whether its stream is subscribed. -/
structure Plugin where
  system : SystemRef
  subscribed : Bool
  deriving DecidableEq

/-- The `std::thread` that sends shell commands; nothing in the class joins it. -/
structure HelperThread where
  joinable : Bool
  openedShell : Bool
  deriving DecidableEq

structure State where
  config : Config
  thread : Option HelperThread := none
  paramFrame : Int := 0
  mavsdk : Option Mavsdk := none
  system : Option SystemRef := none
  param : Option SystemRef := none
  telemetry : Option SystemRef := none
  logging : Option Plugin := none
  passthru : Option Plugin := none
  /-- Default-constructed, and assigned by no statement. -/
  hmavIsConnected : Option IsConnectedHandle := none
  deriving DecidableEq

/-- Result code and next state; the argument is whether the connection opened. -/
def exec (opened : Bool) (state : State) : Int × State :=
  let state := { state with mavsdk := some { intercepting := true, newSystemSubscribed := false } }
  if opened then
    (0, { state with mavsdk := some { intercepting := true, newSystemSubscribed := true } })
  else (-ECONNREFUSED, state)

def unsubscribe (state : State) : Except Crash State :=
  if state.system.isSome then do
    let logging ← deref .logging state.logging
    let passthru ← deref .passthru state.passthru
    return { state with
      logging := some { logging with subscribed := false }
      passthru := some { passthru with subscribed := false } }
  else .ok state

def subscribe (airframe : Option Int) (state : State) : Except Crash State := do
  let logging ← deref .logging state.logging
  let passthru ← deref .passthru state.passthru
  let _ ← deref .param state.param
  let state := { state with
    logging := some { logging with subscribed := true }
    passthru := some { passthru with subscribed := true }
    paramFrame := airframe.getD state.paramFrame }
  if state.config.logWoSd || state.config.planWoSd then
    -- Assigning the pointer destroys the thread object it held.
    match state.thread with
    | some thread => if thread.joinable then .error .terminate else pure ()
    | none => pure ()
    return { state with thread := some { joinable := true, openedShell := false } }
  else return state

def World.unsubscribeIsConnected (world : World) (system : SystemRef)
    (handle : Option IsConnectedHandle) : World :=
  match handle with
  | none => world
  | some handle => { world with callbacks := world.callbacks.filter (· ≠ (system, handle)) }

def stop (world : World) (state : State) : Except Crash (World × State) := do
  let (world, state) ← match state.system with
    | none => pure (world, state)
    | some system => do
      let state ← if world.isConnected system then unsubscribe state else pure state
      pure (world.unsubscribeIsConnected system state.hmavIsConnected, state)
  let _ ← deref .mavsdk state.mavsdk
  return (world, { state with mavsdk := none })

/-- The handler looks the autopilot up and compares it with the held system, and
every path leaves the object as it was. -/
def onMavOnNewSystem (world : World) (firstAutopilot : Option SystemRef) (state : State) :
    Except Crash State := do
  let _ ← deref .mavsdk state.mavsdk
  match firstAutopilot with
  | none => return state
  | some newSys =>
    match state.system with
    | none => return state
    | some system =>
      if world.isConnected system then
        if world.systemId system = world.systemId newSys then return state
        return state
      return state

/-- A notification leaves the object as it was, whatever it finds. -/
theorem onMavOnNewSystem_cases (world : World) (firstAutopilot : Option SystemRef) (state : State) :
    (state.mavsdk.isSome = true ∧ onMavOnNewSystem world firstAutopilot state = .ok state) ∨
    (state.mavsdk.isSome = false ∧
      onMavOnNewSystem world firstAutopilot state = .error (.null .mavsdk)) := by
  cases present : state.mavsdk with
  | none => exact .inr ⟨rfl, by simp [onMavOnNewSystem, present, deref, bind, Except.bind]⟩
  | some sdk =>
    refine .inl ⟨rfl, ?_⟩
    simp only [onMavOnNewSystem, present, deref, bind, Except.bind]
    cases firstAutopilot with
    | none => rfl
    | some newSys =>
      cases held : state.system with
      | none => rfl
      | some system => simp [pure, Except.pure]

def onMavSystemIsConnected (world : World) (connected : Bool) (airframe : Option Int)
    (state : State) : Except Crash (World × State) :=
  if connected then do
    let system ← deref .system state.system
    let state ← subscribe airframe { state with
      param := some system
      telemetry := some system
      logging := some { system := system, subscribed := false }
      passthru := some { system := system, subscribed := false } }
    return (world, state)
  else do
    let state ← if state.system.isSome then unsubscribe state else pure state
    let system ← deref .system state.system
    return (world.unsubscribeIsConnected system state.hmavIsConnected, { state with
      param := none
      telemetry := none
      logging := none
      passthru := none
      system := none })

/-! ## Getters and publication -/

/-- Result code and the caller's buffer afterwards. -/
def getPosition (telemetry : Option Telemetry) (llh : PositionLlh) : Int × PositionLlh :=
  match telemetry with
  | none => (-EUNATCH, llh)
  | some reading => (0,
      { latitudeDeg := reading.latitudeDeg
        longitudeDeg := reading.longitudeDeg
        mslAltitudeM := reading.absoluteAltitudeM
        relAltitudeM := reading.relativeAltitudeM })

def getVelocity (telemetry : Option Telemetry) (ned : VelocityNed) : Int × VelocityNed :=
  match telemetry with
  | none => (-EUNATCH, ned)
  | some reading => (0,
      { northMps := reading.northMS
        eastMps := reading.eastMS
        downMps := reading.downMS })

/-- `MAVLINK_MSG_V2_EXTENSION_FIELD_PAYLOAD_LEN`. -/
abbrev extensionPayloadLength : Nat := 249

structure V2Extension where
  messageType : BitVec 16
  targetNetwork : Byte
  targetSystem : Byte
  targetComponent : Byte
  payload : Storage extensionPayloadLength
  deriving DecidableEq

/-- Result code and the extension message handed to the library; `accepted` is its
answer to `queue_message`. -/
def publishMessage (passthru : Option Plugin) (accepted : Bool) (targetCid : Byte)
    (msgType : BitVec 16) (stream : Storage extensionPayloadLength) : Int × Option V2Extension :=
  match passthru with
  | none => (-EUNATCH, none)
  | some _ =>
    let extension : V2Extension :=
      { messageType := msgType
        targetNetwork := 0
        targetSystem := 0
        targetComponent := targetCid
        payload := stream }
    if accepted then (0, some extension) else (-EAGAIN, some extension)

end VehicleRunner.Bundle.MavVehicle
