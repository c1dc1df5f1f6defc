import VehicleRunner.App.Construction
import VehicleRunner.Bundle.MavDiscovery
import VehicleRunner.Bundle.MqttClient

/-! `AppMain::Exec`: the components are started, each only if it is there, and then
the vehicle is asked in a loop to publish the features, there or not. Between two
iterations the autopilot library notifies the vehicle of what it finds. -/

namespace VehicleRunner.App

open VehicleRunner.Foundation VehicleRunner.Bundle VehicleRunner.Plugin Json

namespace MAV

def compIdGcs : Byte := 190
def typeFeature : BitVec 16 := 40001

/-- The plugins a ground station is told of. -/
structure Feature where
  logCapture : Bool := false
  volatileMission : Bool := false
  smallSwarm : Bool := false
  deriving DecidableEq

/-- The features as the bytes of their structure. -/
def Feature.bytes (feature : Feature) : List Byte :=
  [feature.logCapture, feature.volatileMission, feature.smallSwarm].map
    fun flag => if flag then 1 else 0

/-- The message as the bytes sent; those behind the features are never assigned. -/
def Feature.stream (feature : Feature) (rest : Storage (MavVehicle.extensionPayloadLength - 3)) :
    Storage MavVehicle.extensionPayloadLength :=
  ⟨feature.bytes ++ rest.bytes, by rw [List.length_append, rest.sized]; rfl⟩

end MAV

inductive Component where
  | mavVehicle | mqttClient | zmqPublish | zmqSubscribes | smallSwarm
  deriving DecidableEq

/-- What ends the program: a null component followed, an exception nothing catches, or a
notification the vehicle does not survive. -/
inductive Crash where
  | null (component : Component)
  | uncaught (raised : Zmq.Error)
  | notified (crash : MavVehicle.Crash)
  deriving DecidableEq

def follow {Target : Type} (component : Component) : Option Target → Except Crash Target
  | none => .error (.null component)
  | some target => .ok target

/-- The objects behind the members. -/
structure Components where
  mavVehicle : Option MavVehicle.State
  mqttClient : Option MqttClient.State
  zmqPublish : Option Zmq.Publisher
  zmqSubscribes : Option (List Zmq.Subscriber)
  smallSwarm : Option SmallSwarm.Config

/-- As constructed; `_mqtt_client` is assigned by no statement. -/
def AppMain.components (app : AppMain) : Components where
  mavVehicle := app.mavVehicle.map fun config => { config := config }
  mqttClient := none
  zmqPublish := app.zmqPublish.map fun config => { config := config }
  zmqSubscribes := app.zmqSubscribes.map fun configs => configs.map fun config => { config := config }
  smallSwarm := app.smallSwarm

/-- How the libraries answer the `Exec` of each component, and what the vehicle's library
has discovered by then. -/
structure Answers where
  opened : Bool
  discovered : MavVehicle.World
  connecting : Bool
  bound : Bool
  connected : Nat → Bool

def startVehicle (answers : Answers) (components : Components) : Except Crash Components :=
  if components.mavVehicle.isSome then do
    let vehicle ← follow .mavVehicle components.mavVehicle
    return { components with mavVehicle := some (MavVehicle.exec answers.opened vehicle).2 }
  else .ok components

def startClient (answers : Answers) (components : Components) : Except Crash Components :=
  if components.mqttClient.isSome then do
    let client ← follow .mqttClient components.mqttClient
    return { components with mqttClient := some (MqttClient.exec answers.connecting client).2 }
  else .ok components

def startPublish (answers : Answers) (components : Components) : Except Crash Components :=
  if components.zmqPublish.isSome then do
    let publisher ← follow .zmqPublish components.zmqPublish
    match Zmq.publishers.exec answers.bound publisher with
    | (.error raised, _) => .error (.uncaught raised)
    | (.ok (), publisher) => return { components with zmqPublish := some publisher }
  else .ok components

def startEach (connected : Nat → Bool) : Nat → List Zmq.Subscriber → Except Crash (List Zmq.Subscriber)
  | _, [] => .ok []
  | index, it :: rest =>
    match Zmq.subscribers.exec (connected index) it with
    | (.error raised, _) => .error (.uncaught raised)
    | (.ok (), it) => do
      let rest ← startEach connected (index + 1) rest
      return it :: rest

def startSubscribes (answers : Answers) (components : Components) : Except Crash Components :=
  if components.zmqSubscribes.isSome then do
    let subscribers ← follow .zmqSubscribes components.zmqSubscribes
    let subscribers ← startEach answers.connected 0 subscribers
    return { components with zmqSubscribes := some subscribers }
  else .ok components

/-- The swarm's own `Exec` goes through the subscribers it was constructed with. -/
def startSwarm (feature : MAV.Feature) (components : Components) : Except Crash MAV.Feature :=
  if components.smallSwarm.isSome then do
    let swarm ← follow .smallSwarm components.smallSwarm
    let _ ← follow .zmqSubscribes swarm.zmqSubscribes
    return { feature with smallSwarm := true }
  else .ok feature

def startup (answers : Answers) (components : Components) : Except Crash (MAV.Feature × Components) := do
  let components ← startVehicle answers components
  let components ← startClient answers components
  let components ← startPublish answers components
  let components ← startSubscribes answers components
  let feature ← startSwarm {} components
  return (feature, components)

/-- What comes with an iteration: the notifications during the sleep before it, and whether
the library takes a message handed to it. -/
structure Turn where
  notified : List MavVehicle.Event
  accepted : Bool

/-- The library notifies the vehicle, if there is one. -/
def notify (notified : List MavVehicle.Event) (world : MavVehicle.World) (components : Components) :
    Except Crash (MavVehicle.World × Components) :=
  match components.mavVehicle with
  | none => .ok (world, components)
  | some state =>
    match notified.foldlM MavVehicle.handle { world := world, state := state, delivered := [] } with
    | .error crash => .error (.notified crash)
    | .ok vehicle => .ok (vehicle.world, { components with mavVehicle := some vehicle.state })

/-- The code discards what comes of each `PublishMessage`. -/
def loop (stream : Storage MavVehicle.extensionPayloadLength) :
    MavVehicle.World → Components → List Turn → Except Crash (List (Int × Option MavVehicle.V2Extension))
  | _, _, [] => .ok []
  | world, components, turn :: turns => do
    let (world, components) ← notify turn.notified world components
    let vehicle ← follow .mavVehicle components.mavVehicle
    let published := MavVehicle.publishMessage vehicle.passthru turn.accepted MAV.compIdGcs
      MAV.typeFeature stream
    let rest ← loop stream world components turns
    return published :: rest

/-- So many iterations of the endless loop, and what came of each. -/
def exec (answers : Answers) (rest : Storage (MavVehicle.extensionPayloadLength - 3))
    (turns : List Turn) (app : AppMain) : Except Crash (List (Int × Option MavVehicle.V2Extension)) := do
  let (feature, components) ← startup answers app.components
  loop (feature.stream rest) answers.discovered components turns

/-! ## What the configuration has to hold -/

/-- It converts to text. -/
def Textual : Value → Prop
  | .array _ => False
  | .object _ => False
  | _ => True

/-- It converts to a flag. -/
def Flaglike : Value → Prop
  | .string _ => False
  | .array _ => False
  | .object _ => False
  | _ => True

/-- The member of an object under a key, null if there is none. -/
def valueAt (members : List (String × Value)) (key : String) : Value :=
  (members.lookup key).getD .null

/-- The file is missing, or holds a root and values that the vehicle's keys convert. -/
def VehicleConfigured : ConfigFile → Prop
  | .missing => True
  | .parsed .null => True
  | .parsed (.object members) => Textual (valueAt members JsonKey.mavlinkUrl) ∧
      Flaglike (valueAt members JsonKey.mavLogWoSd) ∧ Flaglike (valueAt members JsonKey.mavPlanWoSd)
  | _ => False

theorem asString_textual (value : Value) : (∃ text, value.asString = .ok text) ↔ Textual value := by
  cases value <;> simp [Value.asString, Textual]

theorem asBool_flaglike (value : Value) : (∃ flag, value.asBool = .ok flag) ↔ Flaglike value := by
  cases value <;> simp [Value.asBool, Flaglike]

/-- The vehicle's keys of an object convert exactly if each value does. -/
theorem mavConfig_object (members : List (String × Value)) :
    (∃ config, mavConfig (.object members) = .ok config) ↔
      Textual (valueAt members JsonKey.mavlinkUrl) ∧
        Flaglike (valueAt members JsonKey.mavLogWoSd) ∧ Flaglike (valueAt members JsonKey.mavPlanWoSd) := by
  rw [← asString_textual, ← asBool_flaglike, ← asBool_flaglike]
  constructor
  · rintro ⟨config, configured⟩
    obtain ⟨url, readUrl, configured⟩ := bind_ok.mp configured
    obtain ⟨log, readLog, configured⟩ := bind_ok.mp configured
    obtain ⟨plan, readPlan, _⟩ := bind_ok.mp configured
    exact ⟨⟨url, readUrl⟩, ⟨log, readLog⟩, ⟨plan, readPlan⟩⟩
  · rintro ⟨⟨url, readUrl⟩, ⟨log, readLog⟩, ⟨plan, readPlan⟩⟩
    exact ⟨_, bind_ok.mpr ⟨url, readUrl, bind_ok.mpr ⟨log, readLog, bind_ok.mpr ⟨plan, readPlan, rfl⟩⟩⟩⟩

theorem vehicleConfigured_iff (file : ConfigFile) :
    VehicleConfigured file ↔ ∃ root config, file.read = .ok root ∧ mavConfig root = .ok config := by
  cases file with
  | missing => exact ⟨fun _ => ⟨_, _, rfl, rfl⟩, fun _ => trivial⟩
  | refused =>
    refine ⟨False.elim, ?_⟩
    rintro ⟨_, _, read, _⟩
    cases read
  | parsed root =>
    simp only [ConfigFile.read, Except.ok.injEq, exists_and_left, exists_eq_left']
    cases root with
    | null => exact ⟨fun _ => ⟨_, rfl⟩, fun _ => trivial⟩
    | object members => exact (mavConfig_object members).symm
    | _ =>
      refine ⟨False.elim, ?_⟩
      rintro ⟨_, configured⟩
      cases configured

/-! ## What the constructor leaves -/

/-- A swarm that was assigned holds its list of subscribers. -/
def Wired (app : AppMain) : Prop :=
  ∀ swarm, app.smallSwarm = some swarm → swarm.zmqSubscribes.isSome = true

variable {lexicalCast : String → Option (BitVec 16)} {construct : Nat → Except Exception Unit}
  {made : Nat → Nat → Bool} {app : AppMain}

variable (lexicalCast construct) in
/-- A run of the plugin leaves the vehicle alone, and any swarm wired. -/
theorem pluginSmallSwarm_keeps (json : Value) (wired : Wired app) :
    (pluginSmallSwarm lexicalCast construct json app).2.mavVehicle = app.mavVehicle ∧
      Wired (pluginSmallSwarm lexicalCast construct json app).2 := by
  unfold pluginSmallSwarm
  cases configure lexicalCast json with
  | error raised => exact ⟨rfl, wired⟩
  | ok configs =>
    simp only [assemble]
    cases construct 0 with
    | error raised => exact ⟨rfl, wired⟩
    | ok _ =>
      simp only
      cases (makeSubscribes construct 1 configs.2).1 with
      | error raised => exact ⟨rfl, wired⟩
      | ok _ =>
        refine ⟨rfl, ?_⟩
        intro swarm assigned
        cases assigned
        rfl

theorem listSmallSwarm_app (run : Nat) (json : Value) :
    (listSmallSwarm lexicalCast made run json app).2 =
      (pluginSmallSwarm lexicalCast (constructs made run) json app).2 := by
  unfold listSmallSwarm
  split
  · simp [*]
  · split
    · simp [*]
    · split <;> simp [*]

variable (lexicalCast made) in
theorem listPlugins_keeps (root : Value) (run : Nat) (plugins : List Value) (wired : Wired app) :
    (listPlugins lexicalCast made root run plugins app).2.mavVehicle = app.mavVehicle ∧
      Wired (listPlugins lexicalCast made root run plugins app).2 := by
  induction plugins generalizing run app with
  | nil => exact ⟨rfl, wired⟩
  | cons plugin plugins ih =>
    cases named : plugin.asString with
    | error raised => simpa only [listPlugins, named] using ⟨trivial, wired⟩
    | ok name =>
      by_cases swarm : name = JsonKey.pluginSmallSwarm
      · cases sectioned : root.get JsonKey.smallSwarmSection with
        | error raised => simpa only [listPlugins, named, swarm, sectioned, ↓reduceIte] using ⟨trivial, wired⟩
        | ok json =>
          have kept := pluginSmallSwarm_keeps lexicalCast (constructs made run) json wired
          rw [← listSmallSwarm_app] at kept
          cases ran : listSmallSwarm lexicalCast made run json app with
          | mk outcome next =>
            rw [ran] at kept
            cases outcome with
            | error halt => simpa only [listPlugins, named, swarm, sectioned, ran, ↓reduceIte] using kept
            | ok _ =>
              obtain ⟨vehicle, rest⟩ := ih (run + 1) kept.2
              simp only [listPlugins, named, swarm, sectioned, ran, ↓reduceIte]
              exact ⟨vehicle.trans kept.1, rest⟩
      · simp only [listPlugins, named, swarm, ↓reduceIte]
        exact ih run wired

theorem handled_app {outcome : Except Halt Unit × AppMain} (returned : handled outcome = .returned app) :
    outcome.2 = app := by
  obtain ⟨ended, left⟩ := outcome
  cases ended with
  | ok _ => exact Outcome.returned.inj returned
  | error halt =>
    cases halt with
    | terminated => cases returned
    | raised exception =>
      cases standard : exception.standard with
      | true =>
        rw [handled, standard, if_pos rfl] at returned
        exact Outcome.returned.inj returned
      | false =>
        rw [handled, standard, if_neg (by simp)] at returned
        cases returned

/-- A program that was constructed has its vehicle exactly if the file configures one;
without it, it has nothing at all. -/
theorem appMain_vehicle {file : ConfigFile} (returned : appMain lexicalCast made file = .returned app) :
    Wired app ∧ (VehicleConfigured file → app.mavVehicle.isSome = true) ∧
      (¬ VehicleConfigured file → app = {}) := by
  have left := handled_app returned
  have bare (config : Option MavVehicle.Config) : Wired { mavVehicle := config } := by
    intro swarm assigned
    cases assigned
  unfold construction at left
  rw [vehicleConfigured_iff]
  cases read : file.read with
  | error raised =>
    simp only [read] at left
    subst left
    exact ⟨bare none, by simp, fun _ => rfl⟩
  | ok root =>
    cases configured : mavConfig root with
    | error raised =>
      simp only [read, configured] at left
      subst left
      refine ⟨bare none, ?_, fun _ => rfl⟩
      rintro ⟨_, config, same, good⟩
      cases same
      rw [configured] at good
      cases good
    | ok config =>
      have known : ∃ other config, Except.ok root = (.ok other : Except Exception Value) ∧
          mavConfig other = .ok config := ⟨root, config, rfl, configured⟩
      cases listed : root.get JsonKey.pluginList with
      | error raised =>
        simp only [read, configured, listed] at left
        subst left
        exact ⟨bare _, fun _ => rfl, fun none => absurd known none⟩
      | ok plugins =>
        simp only [read, configured, listed] at left
        obtain ⟨vehicle, wired⟩ := listPlugins_keeps lexicalCast made root 0 plugins.elements
          (bare (some config))
        rw [left] at vehicle wired
        exact ⟨wired, fun _ => by rw [vehicle]; rfl, fun none => absurd known none⟩

/-! ## What the program follows -/

def Null (crash : Crash) : Prop := ∃ component, crash = .null component

theorem uncaught_not_null (raised : Zmq.Error) : ¬ Null (.uncaught raised) := by
  rintro ⟨component, same⟩
  cases same

/-- The vehicle's own `Exec` has run where there is a vehicle, and a swarm is as it was. -/
def Started (answers : Answers) (before after : Components) : Prop :=
  after.mavVehicle = before.mavVehicle.map (fun state => (MavVehicle.exec answers.opened state).2) ∧
    after.smallSwarm = before.smallSwarm

/-- What starting another component leaves as it was. -/
def Kept (before after : Components) : Prop :=
  after.mavVehicle = before.mavVehicle ∧ after.smallSwarm = before.smallSwarm

variable {answers : Answers}

theorem Started.trans {first second third : Components} (one : Started answers first second)
    (two : Kept second third) : Started answers first third :=
  ⟨two.1.trans one.1, two.2.trans one.2⟩

/-- A component is followed only after it was found to be there. -/
theorem guarded_start {Target : Type} {component : Component} {pointer : Option Target}
    {components : Components} {body : Target → Except Crash Components} {Good : Components → Prop}
    (skips : pointer = none → Good components)
    (starts : ∀ target, pointer = some target → Avoids Null (body target) Good) :
    Avoids Null (if pointer.isSome then follow component pointer >>= body else .ok components) Good := by
  cases pointer with
  | none => exact skips rfl
  | some target => exact starts target rfl

theorem startVehicle_started (components : Components) :
    Avoids Null (startVehicle answers components) (Started answers components) := by
  refine guarded_start (fun absent => ⟨?_, rfl⟩) fun state present => ⟨?_, rfl⟩
  · rw [absent]
    rfl
  · rw [present]
    rfl

theorem startClient_kept (components : Components) :
    Avoids Null (startClient answers components) (Kept components) :=
  guarded_start (fun _ => ⟨rfl, rfl⟩) fun _ _ => ⟨rfl, rfl⟩

theorem startPublish_kept (components : Components) :
    Avoids Null (startPublish answers components) (Kept components) := by
  refine guarded_start (fun _ => ⟨rfl, rfl⟩) fun publisher _ => ?_
  cases ran : Zmq.publishers.exec answers.bound publisher with
  | mk outcome next =>
    cases outcome with
    | error raised => exact uncaught_not_null raised
    | ok _ => exact ⟨rfl, rfl⟩

theorem startEach_avoids (connected : Nat → Bool) (index : Nat) (subscribers : List Zmq.Subscriber) :
    Avoids Null (startEach connected index subscribers) fun _ => True := by
  induction subscribers generalizing index with
  | nil => trivial
  | cons it rest ih =>
    unfold startEach
    cases ran : Zmq.subscribers.exec (connected index) it with
    | mk outcome next =>
      cases outcome with
      | error raised => exact uncaught_not_null raised
      | ok _ => exact (ih (index + 1)).bind fun started _ => trivial

theorem startSubscribes_kept (components : Components) :
    Avoids Null (startSubscribes answers components) (Kept components) := by
  refine guarded_start (fun _ => ⟨rfl, rfl⟩) fun subscribers _ => ?_
  exact (startEach_avoids answers.connected 0 subscribers).bind fun started _ => ⟨rfl, rfl⟩

theorem startSwarm_avoids (feature : MAV.Feature) {components : Components}
    (wired : ∀ swarm, components.smallSwarm = some swarm → swarm.zmqSubscribes.isSome = true) :
    Avoids Null (startSwarm feature components) fun _ => True := by
  unfold startSwarm
  cases present : components.smallSwarm with
  | none => trivial
  | some swarm =>
    obtain ⟨subscribers, held⟩ := Option.isSome_iff_exists.mp (wired swarm present)
    simp only [Option.isSome_some, ↓reduceIte, follow, bind, Except.bind, held]
    trivial

/-- Nothing null is followed on the way to the loop, and what starts it is the vehicle as
it was constructed. -/
theorem startup_avoids (wired : Wired app) :
    Avoids Null (startup answers app.components) fun started => Started answers app.components started.2 := by
  refine (startVehicle_started app.components).bind fun first begun => ?_
  refine (startClient_kept first).bind fun second also => ?_
  refine (startPublish_kept second).bind fun third more => ?_
  refine (startSubscribes_kept third).bind fun fourth rest => ?_
  have whole := ((begun.trans also).trans more).trans rest
  refine (startSwarm_avoids {} ?_).bind fun feature _ => whole
  rw [whole.2]
  exact wired

/-- Notifications neither make a vehicle nor take it away. -/
theorem notify_avoids {components : Components} (present : components.mavVehicle.isSome = true)
    (notified : List MavVehicle.Event) (world : MavVehicle.World) :
    Avoids Null (notify notified world components) fun later => later.2.mavVehicle.isSome = true := by
  obtain ⟨state, held⟩ := Option.isSome_iff_exists.mp present
  unfold notify
  rw [held]
  dsimp only
  cases notified.foldlM MavVehicle.handle { world := world, state := state, delivered := [] } with
  | ok vehicle => rfl
  | error crash =>
    rintro ⟨component, same⟩
    cases same

theorem loop_avoids (stream : Storage MavVehicle.extensionPayloadLength) (world : MavVehicle.World)
    {components : Components} (present : components.mavVehicle.isSome = true) (turns : List Turn) :
    Avoids Null (loop stream world components turns) fun _ => True := by
  induction turns generalizing world components with
  | nil => trivial
  | cons turn turns ih =>
    refine (notify_avoids present turn.notified world).bind ?_
    rintro ⟨later, left⟩ still
    obtain ⟨vehicle, held⟩ := Option.isSome_iff_exists.mp still
    dsimp only at held ⊢
    rw [held]
    exact (ih later still).bind fun _ _ => trivial

/-- `Exec` follows no null component exactly if the file configures the vehicle: each
start looks before it follows, and the loop does not. -/
theorem exec_avoids_iff (lexicalCast : String → Option (BitVec 16)) (made : Nat → Nat → Bool)
    (file : ConfigFile) (app : AppMain) (returned : appMain lexicalCast made file = .returned app) :
    (∀ answers rest turns component, exec answers rest turns app ≠ .error (.null component)) ↔
      VehicleConfigured file := by
  obtain ⟨wired, present, absent⟩ := appMain_vehicle returned
  constructor
  · intro safe
    by_contra unconfigured
    have empty := absent unconfigured
    subst empty
    exact safe ⟨true, MavVehicle.connectedWorld, true, true, fun _ => true⟩ (.zeros _) [⟨[], true⟩]
      .mavVehicle rfl
  · intro configured answers rest turns component failed
    have avoids : Avoids Null (exec answers rest turns app) fun _ => True := by
      refine (startup_avoids wired).bind fun started begun => ?_
      refine loop_avoids _ _ ?_ turns
      rw [begun.1]
      simpa only [AppMain.components, Option.isSome_map] using present configured
    exact avoids.never failed ⟨component, rfl⟩

theorem exec_avoids_missing :
    (∀ answers rest turns component, exec answers rest turns { mavVehicle := some ⟨"", false, false⟩ } ≠
      .error (.null component)) ↔ VehicleConfigured .missing :=
  exec_avoids_iff (fun _ => none) (fun _ _ => true) .missing _ rfl

/-- A flag given as text leaves the vehicle out, and the first iteration follows it. -/
theorem exec_follows_null :
    ¬ ∀ (lexicalCast : String → Option (BitVec 16)) (made : Nat → Nat → Bool) (file : ConfigFile)
      (app : AppMain), appMain lexicalCast made file = .returned app →
      ∀ answers rest turns component, exec answers rest turns app ≠ .error (.null component) := by
  intro safe
  exact safe (fun _ => none) (fun _ _ => true)
    (.parsed (.object [("MAVLink URL", .string "udp://:14550"), ("MAV Log w/o SD", .string "true")])) {}
    rfl ⟨true, MavVehicle.connectedWorld, true, true, fun _ => true⟩ (.zeros _) [⟨[], true⟩]
    .mavVehicle rfl

end VehicleRunner.App
