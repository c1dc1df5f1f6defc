import VehicleRunner.App.Admission
import VehicleRunner.App.Containment
import VehicleRunner.App.FeatureBroadcast

/-! What the ground station is told against what runs: the one feature ever announced is
the swarm, and it is announced exactly if the first listing of the plugin configured it and
constructed all its sockets. -/

namespace VehicleRunner.App

open VehicleRunner.Foundation VehicleRunner.Bundle VehicleRunner.Plugin Json

/-- The plugin is listed, its section configures a vehicle, and the first run for it
constructed the publisher and every subscriber. -/
def Commissioned (lexicalCast : String → Option (BitVec 16)) (made : Nat → Nat → Bool) (file : ConfigFile) :
    Prop :=
  ∃ json count vehicles, smallSwarmRuns file = .ok (json, count) ∧ 1 ≤ count ∧
    Usable lexicalCast json vehicles ∧ ∀ socket, socket < vehicles.length → made 0 socket = true

/-! ## What the constructor leaves -/

variable {lexicalCast : String → Option (BitVec 16)} {construct : Nat → Except Exception Unit}
  {made : Nat → Nat → Bool} {root json : Value} {app : AppMain}

variable (lexicalCast construct) in
/-- A run of the plugin may replace the swarm, but never takes it away. -/
theorem pluginSmallSwarm_swarm (json : Value) (present : app.smallSwarm.isSome = true) :
    (pluginSmallSwarm lexicalCast construct json app).2.smallSwarm.isSome = true := by
  unfold pluginSmallSwarm
  cases configure lexicalCast json with
  | error raised => exact present
  | ok configs =>
    simp only [assemble]
    cases construct 0 with
    | error raised => exact present
    | ok _ =>
      simp only
      cases (makeSubscribes construct 1 configs.2).1 with
      | error raised => exact present
      | ok _ => rfl

variable (lexicalCast made) in
theorem listPlugins_swarm (root : Value) (run : Nat) (plugins : List Value)
    (present : app.smallSwarm.isSome = true) :
    (listPlugins lexicalCast made root run plugins app).2.smallSwarm.isSome = true := by
  induction plugins generalizing run app with
  | nil => exact present
  | cons plugin plugins ih =>
    cases named : plugin.asString with
    | error raised => simpa only [listPlugins, named] using present
    | ok name =>
      by_cases swarm : name = JsonKey.pluginSmallSwarm
      · cases sectioned : root.get JsonKey.smallSwarmSection with
        | error raised => simpa only [listPlugins, named, swarm, sectioned, ↓reduceIte] using present
        | ok json =>
          have kept := pluginSmallSwarm_swarm lexicalCast (constructs made run) json present
          rw [← listSmallSwarm_app] at kept
          cases ran : listSmallSwarm lexicalCast made run json app with
          | mk outcome next =>
            rw [ran] at kept
            cases outcome with
            | error halt => simpa only [listPlugins, named, swarm, sectioned, ran, ↓reduceIte] using kept
            | ok _ => simpa only [listPlugins, named, swarm, sectioned, ran, ↓reduceIte] using ih (run + 1) kept
      · simpa only [listPlugins, named, swarm, ↓reduceIte] using ih run present

variable (lexicalCast made app) in
/-- The listings leave a swarm exactly if the first run of the plugin made one. -/
theorem listPlugins_commissioned (plugins : List Value) (bare : app.smallSwarm = none)
    (sectioned : root.get JsonKey.smallSwarmSection = .ok json) :
    (listPlugins lexicalCast made root 0 plugins app).2.smallSwarm.isSome = true ↔
      1 ≤ listings plugins ∧ ∃ vehicles, Usable lexicalCast json vehicles ∧
        ∀ socket, socket < vehicles.length → made 0 socket = true := by
  by_cases listed : 1 ≤ listings plugins
  · obtain ⟨rest, _, halts, goes⟩ := listPlugins_listed lexicalCast made 0 app sectioned listed
    simp only [listed, true_and]
    cases configured : configure lexicalCast json with
    | error raised =>
      rw [halts _ _ (listSmallSwarm_error (pluginSmallSwarm_refused app configured)), bare]
      refine ⟨by simp, ?_⟩
      intro commissioned
      obtain ⟨vehicles, usable, _⟩ := commissioned
      obtain ⟨_, _, configures, _⟩ := usable.configures
      rw [configured] at configures
      cases configures
    | ok configs =>
      obtain ⟨vehicles, usable, size⟩ := configure_usable configured
      have only : (∃ others, Usable lexicalCast json others ∧
          ∀ socket, socket < others.length → made 0 socket = true) ↔
          ∀ socket, socket < configs.2.length + 1 → made 0 socket = true := by
        rw [← size]
        constructor
        · intro commissioned
          obtain ⟨others, also, constructed⟩ := commissioned
          obtain rfl := Except.ok.inj (usable.1.symm.trans also.1)
          exact constructed
        · exact fun constructed => ⟨vehicles, usable, constructed⟩
      rw [only]
      rcases pluginSmallSwarm_cases made 0 app configured with
        ⟨failed, ran⟩ | ⟨_, ⟨constructed, ran⟩ | ⟨⟨socket, inside, failed⟩, _, _, ran⟩⟩
      · rw [halts _ _ (listSmallSwarm_error ran), bare]
        refine ⟨by simp, ?_⟩
        intro constructed
        rw [constructed 0 (Nat.succ_pos _)] at failed
        cases failed
      · rw [goes _ (listSmallSwarm_first bare ran)]
        exact ⟨fun _ => constructed, fun _ => listPlugins_swarm lexicalCast made root 1 rest rfl⟩
      · rw [halts _ _ (listSmallSwarm_error ran)]
        refine ⟨by simp [bare], ?_⟩
        intro constructed
        rw [constructed socket inside] at failed
        cases failed
  · have unlisted : listings plugins = 0 := by omega
    have left : (listPlugins lexicalCast made root 0 plugins app).2 = app :=
      handled_app (listPlugins_unlisted 0 app unlisted)
    simp [left, bare, listed]

/-- A program that was constructed holds a swarm exactly if it was commissioned. -/
theorem appMain_swarm {file : ConfigFile} (returned : appMain lexicalCast made file = .returned app) :
    app.smallSwarm.isSome = true ↔ Commissioned lexicalCast made file := by
  have left := handled_app returned
  unfold construction at left
  cases read : file.read with
  | error raised =>
    simp only [read] at left
    subst left
    refine ⟨by simp, ?_⟩
    intro commissioned
    obtain ⟨_, _, _, runs, _⟩ := commissioned
    simp [smallSwarmRuns, read, bind, Except.bind] at runs
  | ok root =>
    cases configured : mavConfig root with
    | error raised =>
      simp only [read, configured] at left
      subst left
      refine ⟨by simp, ?_⟩
      intro commissioned
      obtain ⟨_, _, _, runs, _⟩ := commissioned
      simp [smallSwarmRuns, read, configured, bind, Except.bind] at runs
    | ok config =>
      obtain ⟨plugins, listed⟩ := mavConfig_get configured JsonKey.pluginList
      obtain ⟨json, sectioned⟩ := mavConfig_get configured JsonKey.smallSwarmSection
      have runs : smallSwarmRuns file = .ok (json, listings plugins.elements) :=
        bind_ok.mpr ⟨root, read, bind_ok.mpr ⟨config, configured, bind_ok.mpr ⟨plugins, listed,
          bind_ok.mpr ⟨json, sectioned, rfl⟩⟩⟩⟩
      simp only [read, configured, listed] at left
      subst left
      rw [listPlugins_commissioned lexicalCast made { mavVehicle := some config } plugins.elements rfl
        sectioned]
      constructor
      · intro commissioned
        obtain ⟨many, vehicles, usable, constructed⟩ := commissioned
        exact ⟨json, _, vehicles, runs, many, usable, constructed⟩
      · intro commissioned
        obtain ⟨_, _, vehicles, same, many, usable, constructed⟩ := commissioned
        rw [runs] at same
        cases same
        exact ⟨many, vehicles, usable, constructed⟩

/-! ## What the start announces -/

theorem startSwarm_announces {components : Components}
    (wired : ∀ swarm, components.smallSwarm = some swarm → swarm.zmqSubscribes.isSome = true) :
    Avoids Null (startSwarm {} components) fun feature =>
      feature = { smallSwarm := components.smallSwarm.isSome } := by
  unfold startSwarm
  cases present : components.smallSwarm with
  | none => rfl
  | some swarm =>
    obtain ⟨subscribers, held⟩ := Option.isSome_iff_exists.mp (wired swarm present)
    simp only [Option.isSome_some, ↓reduceIte, follow, bind, Except.bind, held]
    rfl

/-- Only the swarm is announced, and whenever there is one. -/
theorem startup_announces (answers : Answers) (wired : Wired app) :
    Avoids Null (startup answers app.components) fun started =>
      started.1 = { smallSwarm := app.smallSwarm.isSome } := by
  refine (startVehicle_started app.components).bind fun first begun => ?_
  refine (startClient_kept first).bind fun second also => ?_
  refine (startPublish_kept second).bind fun third more => ?_
  refine (startSubscribes_kept third).bind fun fourth rest => ?_
  have swarm : fourth.smallSwarm = app.smallSwarm := (((begun.trans also).trans more).trans rest).2
  refine (startSwarm_announces ?_).bind fun feature announced => ?_
  · rw [swarm]
    exact wired
  · rw [swarm] at announced
    exact announced

/-- In every message a loop after this start sends, over the vehicle started or one in any
other state, the first two features are not set, whatever the configuration asks for, and the
third is set exactly if the program was commissioned: a later listing that fails neither adds
to the swarm nor takes it back. -/
theorem announced_iff (lexicalCast : String → Option (BitVec 16)) (made : Nat → Nat → Bool)
    (file : ConfigFile) (app : AppMain) (execution : Execution) (feature : MAV.Feature)
    (components : Components) (returned : appMain lexicalCast made file = .returned app)
    (started : startup execution.answers app.components = .ok (feature, components)) :
    (feature.smallSwarm = true ↔ Commissioned lexicalCast made file) ∧
      ∀ world vehicle code message,
        (code, some message) ∈
            execution.publishedFrom feature world { components with mavVehicle := vehicle } →
          message.payload.bytes.take 3 = [0, 0, if feature.smallSwarm then 1 else 0] := by
  have announced : feature = { smallSwarm := app.smallSwarm.isSome } :=
    (startup_announces execution.answers (appMain_vehicle returned).1).ensured started
  constructor
  · rw [announced]
    exact appMain_swarm returned
  · intro world vehicle code message handed
    rw [execution.publishedFrom_payload handed, announced]
    rfl

/-- A leader's file that lists the plugin twice. -/
def listedTwice : ConfigFile :=
  .parsed (.object [("Plugin List", .array [.string "SmallSwarm", .string "SmallSwarm"]),
    ("SmallSwarm Section", leaderSection [])])

/-- A vehicle that has adopted an autopilot. -/
def plugged : MavVehicle.State where
  config := ⟨"", false, false⟩
  mavsdk := some ⟨true, true⟩
  system := some 1
  passthru := some ⟨1, true⟩

/-- The second listing cannot bind its publisher; the swarm of the first is announced. -/
theorem announced_twice :
    ∃ app feature components message,
      appMain samplePort (fun run _ => run = 0) listedTwice = .returned app ∧
      startup (oneTurn 0).answers app.components = .ok (feature, components) ∧
      Commissioned samplePort (fun run _ => run = 0) listedTwice ∧
      (oneTurn 0).publishedFrom feature MavVehicle.connectedWorld
        { components with mavVehicle := some plugged } = [(0, some message)] ∧
      message.payload.bytes.take 3 = [0, 0, 1] := by
  refine ⟨_, _, _, _, rfl, rfl, ?_, rfl, ?_⟩
  · exact (announced_iff samplePort (fun run _ => run = 0) listedTwice _ (oneTurn 0) _ _ rfl rfl).1.mp rfl
  · exact (announced_iff samplePort (fun run _ => run = 0) listedTwice _ (oneTurn 0) _ _ rfl rfl).2
      MavVehicle.connectedWorld (some plugged) 0 _ (List.mem_singleton_self _)

end VehicleRunner.App
