import VehicleRunner.App.Selection
import VehicleRunner.Bundle.ZmqEndpoint

/-! The constructor of `AppMain`: the configuration file, the vehicle and the plugins
listed, inside a handler for `std::exception`. -/

namespace VehicleRunner.App

open VehicleRunner.Foundation VehicleRunner.Bundle VehicleRunner.Plugin Json

namespace JsonKey

def mavlinkUrl : String := "MAVLink URL"
def mavLogWoSd : String := "MAV Log w/o SD"
def mavPlanWoSd : String := "MAV Plan w/o SD"
def pluginList : String := "Plugin List"
def pluginSmallSwarm : String := "SmallSwarm"
def smallSwarmSection : String := "SmallSwarm Section"

end JsonKey

/-- What the iterators of a value pass over; an object's members stand in their order. -/
def Json.Value.elements : Value → List Value
  | .array elements => elements
  | .object members => members.map Prod.snd
  | _ => []

/-- The file named on the command line. A parse that fails leaves some value behind. -/
inductive ConfigFile where
  | missing
  | parsed (root : Value)
  /-- The parser raised. -/
  | refused

def ConfigFile.read : ConfigFile → Except Exception Value
  | .missing => .ok .null
  | .parsed root => .ok root
  | .refused => .error .logicError

/-- `std::exception` is a base of its type. -/
def Exception.standard : Exception → Bool
  | .thrown _ => false
  | _ => true

/-- What cuts the constructor short. An exception that leaves a destructor ends the process. -/
inductive Halt where
  | raised (exception : Exception)
  | terminated
  deriving DecidableEq

inductive Outcome where
  | returned (app : AppMain)
  | escaped (exception : Exception)
  | terminated
  deriving DecidableEq

def mavConfig (root : Value) : Except Exception MavVehicle.Config := do
  let connectUrl ← root.readString JsonKey.mavlinkUrl
  let logWoSd ← root.readBool JsonKey.mavLogWoSd
  let planWoSd ← root.readBool JsonKey.mavPlanWoSd
  return ⟨connectUrl, logWoSd, planWoSd⟩

section

variable (lexicalCast : String → Option (BitVec 16))

-- Whether each socket of each run of the plugin can be constructed.
variable (made : Nat → Nat → Bool)

/-- The construction of the sockets of one run. -/
def constructs (run socket : Nat) : Except Exception Unit :=
  if made run socket then .ok () else .error .zmqError

/-- One listing of the plugin. The swarm it assigns destroys the one before, and with
that the publisher only that one still holds; nothing has been started yet. -/
def listSmallSwarm (run : Nat) (json : Value) (app : AppMain) : Except Halt Unit × AppMain :=
  match pluginSmallSwarm lexicalCast (constructs made run) json app with
  | (.error raised, next) => (.error (.raised raised), next)
  | (.ok (), next) =>
    match app.smallSwarm >>= SmallSwarm.Config.zmqPublish with
    | none => (.ok (), next)
    | some replaced =>
      match (Zmq.publishers.stop ⟨replaced, {}, false⟩).1 with
      | .ok () => (.ok (), next)
      | .error _ => (.error .terminated, next)

/-- The loop over the plugins listed. -/
def listPlugins (root : Value) : Nat → List Value → AppMain → Except Halt Unit × AppMain
  | _, [], app => (.ok (), app)
  | run, plugin :: plugins, app =>
    match plugin.asString with
    | .error raised => (.error (.raised raised), app)
    | .ok name =>
      if name = JsonKey.pluginSmallSwarm then
        match root.get JsonKey.smallSwarmSection with
        | .error raised => (.error (.raised raised), app)
        | .ok json =>
          match listSmallSwarm lexicalCast made run json app with
          | (.error halt, next) => (.error halt, next)
          | (.ok (), next) => listPlugins root (run + 1) plugins next
      else listPlugins root run plugins app

/-- The body of the constructor: how it ends, and the members assigned until then. -/
def construction (file : ConfigFile) : Except Halt Unit × AppMain :=
  match file.read with
  | .error raised => (.error (.raised raised), {})
  | .ok root =>
    match mavConfig root with
    | .error raised => (.error (.raised raised), {})
    | .ok config =>
      let app : AppMain := { mavVehicle := some config }
      match root.get JsonKey.pluginList with
      | .error raised => (.error (.raised raised), app)
      | .ok plugins => listPlugins lexicalCast made root 0 plugins.elements app

/-- The handler of the constructor. -/
def handled : Except Halt Unit × AppMain → Outcome
  | (.ok (), app) => .returned app
  | (.error .terminated, _) => .terminated
  | (.error (.raised exception), app) =>
    if exception.standard then .returned app else .escaped exception

def appMain (file : ConfigFile) : Outcome := handled (construction lexicalCast made file)

end

/-- The listings of the plugin before the first element that has no name. -/
def listings : List Value → Nat
  | [] => 0
  | plugin :: plugins =>
    match plugin.asString with
    | .error _ => 0
    | .ok name => if name = JsonKey.pluginSmallSwarm then listings plugins + 1 else listings plugins

/-- The section and how often the plugin is listed for it. -/
def smallSwarmRuns (file : ConfigFile) : Except Exception (Value × Nat) := do
  let root ← file.read
  let _ ← mavConfig root
  let plugins ← root.get JsonKey.pluginList
  let json ← root.get JsonKey.smallSwarmSection
  return (json, listings plugins.elements)

theorem mavConfig_logical (root : Value) : Logical (mavConfig root) :=
  (readString_logical root _).bind fun _ => (readBool_logical root _).bind fun _ =>
    (readBool_logical root _).bind fun _ => .ok _

/-- A value that has a member under one key has one, perhaps null, under each. -/
theorem get_any {json value : Value} {key : String} (found : json.get key = .ok value)
    (other : String) : ∃ value, json.get other = .ok value := by
  cases json with
  | null => exact ⟨.null, rfl⟩
  | object members => exact ⟨_, rfl⟩
  | _ => cases found

theorem mavConfig_get {root : Value} {config : MavVehicle.Config} (configured : mavConfig root = .ok config)
    (key : String) : ∃ value, root.get key = .ok value := by
  obtain ⟨_, url, _⟩ := bind_ok.mp configured
  obtain ⟨_, found, _⟩ := bind_ok.mp url
  exact get_any found key

variable {lexicalCast : String → Option (BitVec 16)} {made : Nat → Nat → Bool} {root json : Value}

/-- Without a listing the loop leaves the program as it was. -/
theorem listPlugins_unlisted (run : Nat) {plugins : List Value} (app : AppMain)
    (unlisted : listings plugins = 0) :
    handled (listPlugins lexicalCast made root run plugins app) = .returned app := by
  induction plugins with
  | nil => rfl
  | cons plugin plugins ih =>
    cases named : plugin.asString with
    | error raised =>
      have logical := Value.asString_error named
      simp [listPlugins, named, handled, logical, Exception.standard]
    | ok name =>
      by_cases swarm : name = JsonKey.pluginSmallSwarm
      · simp [listings, named, swarm] at unlisted
      · simp only [listings, named, swarm, ↓reduceIte] at unlisted
        simp only [listPlugins, named, swarm, ↓reduceIte]
        exact ih unlisted

variable (lexicalCast made) in
/-- The first listing runs the plugin, and the loop ends or goes on as the run does. -/
theorem listPlugins_listed (run : Nat) {plugins : List Value} (app : AppMain)
    (sectioned : root.get JsonKey.smallSwarmSection = .ok json) (listed : 1 ≤ listings plugins) :
    ∃ rest, listings plugins = listings rest + 1 ∧
      (∀ halt next, listSmallSwarm lexicalCast made run json app = (.error halt, next) →
        listPlugins lexicalCast made root run plugins app = (.error halt, next)) ∧
      (∀ next, listSmallSwarm lexicalCast made run json app = (.ok (), next) →
        listPlugins lexicalCast made root run plugins app =
          listPlugins lexicalCast made root (run + 1) rest next) := by
  induction plugins with
  | nil => cases listed
  | cons plugin plugins ih =>
    cases named : plugin.asString with
    | error raised =>
      simp only [listings, named] at listed
      omega
    | ok name =>
      by_cases swarm : name = JsonKey.pluginSmallSwarm
      · refine ⟨plugins, ?_, ?_, ?_⟩
        · simp only [listings, named, swarm, ↓reduceIte]
        · intro halt next halted
          simp only [listPlugins, named, swarm, ↓reduceIte, sectioned, halted]
        · intro next succeeded
          simp only [listPlugins, named, swarm, ↓reduceIte, sectioned, succeeded]
      · simp only [listings, named, swarm, ↓reduceIte] at listed ⊢
        simp only [listPlugins, named, swarm, ↓reduceIte]
        exact ih listed

end VehicleRunner.App
