import VehicleRunner.App.Construction

/-! When the constructor of `AppMain` contains every failure of a configuration and
leaves the swarm's components all set or all null. -/

namespace VehicleRunner.App

open VehicleRunner.Foundation VehicleRunner.Misc VehicleRunner.Bundle VehicleRunner.Plugin Json

section

variable (lexicalCast : String → Option (BitVec 16))

/-- The components are those of one successful run for the section. -/
def Assembled (json : Value) (app : AppMain) : Prop :=
  ∃ pubConfig subscribeConfigs, configure lexicalCast json = .ok (pubConfig, subscribeConfigs) ∧
    app.zmqPublish = some pubConfig ∧ app.zmqSubscribes = some subscribeConfigs ∧
    app.smallSwarm = some ⟨pubConfig.vehicleId, app.mavVehicle, some pubConfig, some subscribeConfigs⟩

/-- None of the three components is set. -/
def Bare (app : AppMain) : Prop :=
  app.zmqPublish = none ∧ app.zmqSubscribes = none ∧ app.smallSwarm = none

/-- The constructor returns, with all three components of the swarm or with none. -/
def Contained (made : Nat → Nat → Bool) (file : ConfigFile) : Prop :=
  ∃ app, appMain lexicalCast made file = .returned app ∧ (Bare app ∨
    ∃ root json, file.read = .ok root ∧ root.get JsonKey.smallSwarmSection = .ok json ∧
      Assembled lexicalCast json app)

end

variable {lexicalCast : String → Option (BitVec 16)} {construct : Nat → Except Exception Unit}
  {made : Nat → Nat → Bool} {root json : Value} {run : Nat} {app : AppMain}
  {pubConfig : ZmqPublish.Config} {subscribeConfigs : List ZmqSubscribe.Config}

/-- The program with the components of a run that succeeded. -/
def AppMain.equipped (app : AppMain) (pubConfig : ZmqPublish.Config)
    (subscribeConfigs : List ZmqSubscribe.Config) : AppMain where
  mavVehicle := app.mavVehicle
  zmqPublish := some pubConfig
  zmqSubscribes := some subscribeConfigs
  smallSwarm := some ⟨pubConfig.vehicleId, app.mavVehicle, some pubConfig, some subscribeConfigs⟩

/-! ## One run of the plugin -/

variable (made run) in
/-- The subscribers are all constructed, or one fails and fewer are left. -/
theorem makeSubscribes_cases (first : Nat) (configs : List ZmqSubscribe.Config) :
    ((∀ socket, first ≤ socket → socket < first + configs.length → made run socket = true) ∧
      makeSubscribes (constructs made run) first configs = (.ok (), configs)) ∨
    ((∃ socket, first ≤ socket ∧ socket < first + configs.length ∧ made run socket = false) ∧
      ∃ left, left.length < configs.length ∧
        makeSubscribes (constructs made run) first configs = (.error .zmqError, left)) := by
  induction configs generalizing first with
  | nil =>
    refine .inl ⟨?_, rfl⟩
    intro socket least most
    rw [List.length_nil] at most
    omega
  | cons config configs ih =>
    simp only [List.length_cons]
    cases built : made run first with
    | false =>
      refine .inr ⟨⟨first, Nat.le_refl _, by omega, built⟩, [], Nat.succ_pos _, ?_⟩
      simp [makeSubscribes, constructs, built]
    | true =>
      rcases ih (first + 1) with ⟨whole, rest⟩ | ⟨⟨socket, least, most, failed⟩, left, fewer, rest⟩
      · refine .inl ⟨?_, by simp [makeSubscribes, constructs, built, rest]⟩
        intro socket least most
        by_cases same : socket = first
        · rw [same, built]
        · exact whole socket (by omega) (by omega)
      · refine .inr ⟨⟨socket, by omega, by omega, failed⟩, config :: left, ?_, ?_⟩
        · simpa using fewer
        · simp [makeSubscribes, constructs, built, rest]

variable (made run) in
/-- What a run does for a section that configures a vehicle. -/
theorem pluginSmallSwarm_cases (app : AppMain)
    (configured : configure lexicalCast json = .ok (pubConfig, subscribeConfigs)) :
    (made run 0 = false ∧
      pluginSmallSwarm lexicalCast (constructs made run) json app = (.error .zmqError, app)) ∨
    (made run 0 = true ∧ ((∀ socket, socket < subscribeConfigs.length + 1 → made run socket = true) ∧
        pluginSmallSwarm lexicalCast (constructs made run) json app =
          (.ok (), app.equipped pubConfig subscribeConfigs) ∨
      (∃ socket, socket < subscribeConfigs.length + 1 ∧ made run socket = false) ∧
        ∃ left, left.length < subscribeConfigs.length ∧
          pluginSmallSwarm lexicalCast (constructs made run) json app = (.error .zmqError,
            { app with zmqPublish := some pubConfig, zmqSubscribes := some left }))) := by
  cases built : made run 0 with
  | false =>
    exact .inl ⟨rfl, by simp [pluginSmallSwarm, configured, assemble, constructs, built]⟩
  | true =>
    refine .inr ⟨rfl, ?_⟩
    rcases makeSubscribes_cases made run 1 subscribeConfigs with
      ⟨whole, rest⟩ | ⟨⟨socket, least, most, failed⟩, left, fewer, rest⟩
    · refine .inl ⟨?_, ?_⟩
      · intro socket inside
        by_cases publisher : socket = 0
        · rw [publisher, built]
        · exact whole socket (by omega) (by omega)
      · simp [pluginSmallSwarm, configured, assemble, constructs, built, rest, AppMain.equipped]
    · refine .inr ⟨⟨socket, by omega, failed⟩, left, fewer, ?_⟩
      simp [pluginSmallSwarm, configured, assemble, constructs, built, rest]

theorem pluginSmallSwarm_refused {raised : Exception} (app : AppMain)
    (refused : configure lexicalCast json = .error raised) :
    pluginSmallSwarm lexicalCast construct json app = (.error raised, app) := by
  simp [pluginSmallSwarm, refused]

theorem listSmallSwarm_error {raised : Exception} {next : AppMain}
    (ran : pluginSmallSwarm lexicalCast (constructs made run) json app = (.error raised, next)) :
    listSmallSwarm lexicalCast made run json app = (.error (.raised raised), next) := by
  simp [listSmallSwarm, ran]

theorem listSmallSwarm_first {next : AppMain} (bare : app.smallSwarm = none)
    (ran : pluginSmallSwarm lexicalCast (constructs made run) json app = (.ok (), next)) :
    listSmallSwarm lexicalCast made run json app = (.ok (), next) := by
  simp [listSmallSwarm, ran, bare]

/-- The swarm replaced takes its publisher with it. -/
theorem listSmallSwarm_again {next : AppMain}
    (ran : pluginSmallSwarm lexicalCast (constructs made run) json
      (app.equipped pubConfig subscribeConfigs) = (.ok (), next)) :
    listSmallSwarm lexicalCast made run json (app.equipped pubConfig subscribeConfigs) =
      (.error .terminated, next) := by
  simp only [listSmallSwarm, ran]
  rfl

/-! ## How the constructor ends -/

/-- The handler returns, with the components of one run or with none. -/
def Whole (lexicalCast : String → Option (BitVec 16)) (json : Value)
    (outcome : Except Halt Unit × AppMain) : Prop :=
  ∃ final, handled outcome = .returned final ∧ (Bare final ∨ Assembled lexicalCast json final)

theorem whole_iff {outcome : Except Halt Unit × AppMain} (returned : handled outcome = .returned app) :
    Whole lexicalCast json outcome ↔ Bare app ∨ Assembled lexicalCast json app := by
  constructor
  · rintro ⟨final, same, kept⟩
    obtain rfl := Outcome.returned.inj (same.symm.trans returned)
    exact kept
  · intro kept
    exact ⟨app, returned, kept⟩

/-- What the handler catches leaves the components as they were. -/
theorem whole_caught {raised : Exception} (standard : raised.standard = true) :
    Whole lexicalCast json (.error (.raised raised), app) ↔ Bare app ∨ Assembled lexicalCast json app :=
  whole_iff (by simp [handled, standard])

theorem whole_escaped {raised : Exception} (escapes : raised.standard = false) :
    ¬ Whole lexicalCast json (.error (.raised raised), app) := by
  rintro ⟨final, returned, _⟩
  simp [handled, escapes] at returned

theorem whole_terminated : ¬ Whole lexicalCast json (.error .terminated, app) := by
  rintro ⟨final, returned, _⟩
  cases returned

/-! ## All the listings -/

/-- What the listings may meet: the section seats the vehicle if it loads at all, and
once a publisher is constructed all its subscribers are, and no further publisher. -/
def Spared (lexicalCast : String → Option (BitVec 16)) (made : Nat → Nat → Bool) (json : Value)
    (count : Nat) : Prop :=
  ¬ Unseated json ∧ ∀ vehicles, Usable lexicalCast json vehicles → made 0 0 = true →
    (∀ socket, socket < vehicles.length → made 0 socket = true) ∧ (2 ≤ count → made 1 0 = false)

theorem equipped_assembled (app : AppMain)
    (configured : configure lexicalCast json = .ok (pubConfig, subscribeConfigs)) :
    Assembled lexicalCast json (app.equipped pubConfig subscribeConfigs) :=
  ⟨_, _, configured, rfl, rfl, rfl⟩

/-- A partly assembled program is none that one run leaves. -/
theorem left_broken {left : List ZmqSubscribe.Config} (fewer : left.length < subscribeConfigs.length)
    (configured : configure lexicalCast json = .ok (pubConfig, subscribeConfigs))
    (subscribes : app.zmqSubscribes = some left) : ¬ (Bare app ∨ Assembled lexicalCast json app) := by
  rintro (⟨_, unset, _⟩ | ⟨_, others, again, _, assigned, _⟩)
  · rw [subscribes] at unset
    cases unset
  · obtain ⟨rfl, rfl⟩ := Prod.mk.inj (Except.ok.inj (again.symm.trans configured))
    obtain rfl := Option.some.inj (subscribes.symm.trans assigned)
    omega

/-- After a successful run a further one is survived only if it constructs nothing. -/
theorem listPlugins_again {plugins : List Value} (app : AppMain)
    (sectioned : root.get JsonKey.smallSwarmSection = .ok json)
    (configured : configure lexicalCast json = .ok (pubConfig, subscribeConfigs)) :
    Whole lexicalCast json
        (listPlugins lexicalCast made root 1 plugins (app.equipped pubConfig subscribeConfigs)) ↔
      (1 ≤ listings plugins → made 1 0 = false) := by
  have assembled := equipped_assembled app configured
  by_cases listed : 1 ≤ listings plugins
  · obtain ⟨_, _, halts, _⟩ := listPlugins_listed lexicalCast made 1
      (app.equipped pubConfig subscribeConfigs) sectioned listed
    simp only [listed, forall_const]
    rcases pluginSmallSwarm_cases made 1 (app.equipped pubConfig subscribeConfigs)
      configured with ⟨failed, ran⟩ | ⟨built, ⟨_, ran⟩ | ⟨_, left, fewer, ran⟩⟩
    · rw [halts _ _ (listSmallSwarm_error ran), whole_caught rfl]
      exact ⟨fun _ => failed, fun _ => .inr assembled⟩
    · rw [halts _ _ (listSmallSwarm_again ran), built]
      exact ⟨fun whole => absurd whole whole_terminated, nofun⟩
    · rw [halts _ _ (listSmallSwarm_error ran), whole_caught rfl, built]
      exact ⟨fun kept => absurd kept (left_broken fewer configured rfl), nofun⟩
  · rw [whole_iff (listPlugins_unlisted 1 _ (by omega))]
    exact ⟨fun _ most => absurd most listed, fun _ => .inr assembled⟩

/-- A section that configures nothing is survived unless it leaves the vehicle unseated. -/
theorem listPlugins_refused {plugins : List Value} {raised : Exception} (bare : Bare app)
    (sectioned : root.get JsonKey.smallSwarmSection = .ok json) (listed : 1 ≤ listings plugins)
    (refused : configure lexicalCast json = .error raised) :
    Whole lexicalCast json (listPlugins lexicalCast made root 0 plugins app) ↔ ¬ Unseated json := by
  obtain ⟨_, _, halts, _⟩ := listPlugins_listed lexicalCast made 0 app sectioned listed
  rw [halts _ _ (listSmallSwarm_error (pluginSmallSwarm_refused app refused))]
  have unseated := configure_thrown_iff lexicalCast json
  cases standard : raised.standard with
  | false =>
    cases raised with
    | thrown code =>
      have unseats := ((unseated code).mp refused).2
      exact ⟨fun whole => absurd whole (whole_escaped standard), fun seated => absurd unseats seated⟩
    | _ => cases standard
  | true =>
    rw [whole_caught standard]
    refine ⟨?_, fun _ => .inl bare⟩
    intro _ unseats
    have thrown := (unseated (-EBADR)).mpr ⟨rfl, unseats⟩
    rw [refused] at thrown
    cases thrown
    cases standard

theorem configured_seated
    (configured : configure lexicalCast json = .ok (pubConfig, subscribeConfigs)) : ¬ Unseated json := by
  intro unseats
  have thrown := (configure_thrown_iff lexicalCast json (-EBADR)).mpr ⟨rfl, unseats⟩
  rw [configured] at thrown
  cases thrown

/-- A section that configures a vehicle is survived if its sockets are made as they should. -/
theorem listPlugins_configured {plugins : List Value} (bare : Bare app)
    (sectioned : root.get JsonKey.smallSwarmSection = .ok json) (listed : 1 ≤ listings plugins)
    (configured : configure lexicalCast json = .ok (pubConfig, subscribeConfigs)) :
    Whole lexicalCast json (listPlugins lexicalCast made root 0 plugins app) ↔
      (made 0 0 = true → (∀ socket, socket < subscribeConfigs.length + 1 → made 0 socket = true) ∧
        (2 ≤ listings plugins → made 1 0 = false)) := by
  obtain ⟨rest, count, halts, goes⟩ := listPlugins_listed lexicalCast made 0 app sectioned listed
  rcases pluginSmallSwarm_cases made 0 app configured with
    ⟨failed, ran⟩ | ⟨built, ⟨constructed, ran⟩ | ⟨⟨socket, inside, failed⟩, left, fewer, ran⟩⟩
  · rw [halts _ _ (listSmallSwarm_error ran), whole_caught rfl, failed]
    exact ⟨fun _ => nofun, fun _ => .inl bare⟩
  · rw [goes _ (listSmallSwarm_first bare.2.2 ran), listPlugins_again app sectioned configured]
    constructor
    · intro stopped _
      exact ⟨constructed, fun twice => stopped (by omega)⟩
    · intro spared more
      exact (spared built).2 (by omega)
  · rw [halts _ _ (listSmallSwarm_error ran), whole_caught rfl]
    constructor
    · intro kept
      exact absurd kept (left_broken fewer configured rfl)
    · intro spared
      have made := (spared built).1 socket inside
      rw [failed] at made
      cases made

variable (lexicalCast made app) in
/-- The listings as a whole, for a program without any component of the swarm. -/
theorem listPlugins_spared (plugins : List Value) (bare : Bare app)
    (sectioned : root.get JsonKey.smallSwarmSection = .ok json) :
    Whole lexicalCast json (listPlugins lexicalCast made root 0 plugins app) ↔
      (1 ≤ listings plugins → Spared lexicalCast made json (listings plugins)) := by
  by_cases listed : 1 ≤ listings plugins
  · simp only [listed, forall_const]
    cases configured : configure lexicalCast json with
    | error raised =>
      rw [listPlugins_refused bare sectioned listed configured]
      refine ⟨fun seated => ⟨seated, ?_⟩, fun spared => spared.1⟩
      intro vehicles usable
      obtain ⟨_, _, configures, _⟩ := usable.configures
      rw [configured] at configures
      cases configures
    | ok configs =>
      obtain ⟨vehicles, usable, size⟩ := configure_usable configured
      rw [listPlugins_configured bare sectioned listed configured, ← size]
      constructor
      · intro made
        refine ⟨configured_seated configured, fun others also => ?_⟩
        obtain rfl := Except.ok.inj (usable.1.symm.trans also.1)
        exact made
      · intro spared
        exact spared.2 vehicles usable
  · rw [whole_iff (listPlugins_unlisted 0 _ (by omega))]
    exact ⟨fun _ most => absurd most listed, fun _ => .inl bare⟩

/-- Failures are contained exactly when the listings are spared: the section seats its
vehicle, a publisher gets all its subscribers, and is the only one constructed. -/
theorem contained_iff (lexicalCast : String → Option (BitVec 16)) (made : Nat → Nat → Bool)
    (file : ConfigFile) :
    Contained lexicalCast made file ↔
      ∀ json count, smallSwarmRuns file = .ok (json, count) → 1 ≤ count →
        Spared lexicalCast made json count := by
  cases read : file.read with
  | error raised =>
    obtain rfl : raised = .logicError := by
      cases file with
      | refused => exact (Except.error.inj read).symm
      | _ => cases read
    constructor
    · intro _ json count runs
      simp [smallSwarmRuns, read, bind, Except.bind] at runs
    · intro _
      exact ⟨{}, by simp [appMain, construction, read, handled, Exception.standard], .inl ⟨rfl, rfl, rfl⟩⟩
  | ok root =>
    cases configured : mavConfig root with
    | error raised =>
      have logical := mavConfig_logical root raised configured
      constructor
      · intro _ json count runs
        simp [smallSwarmRuns, read, configured, bind, Except.bind] at runs
      · intro _
        exact ⟨{}, by simp [appMain, construction, read, configured, handled, logical, Exception.standard],
          .inl ⟨rfl, rfl, rfl⟩⟩
    | ok config =>
      obtain ⟨plugins, listed⟩ := mavConfig_get configured JsonKey.pluginList
      obtain ⟨json, sectioned⟩ := mavConfig_get configured JsonKey.smallSwarmSection
      have runs : smallSwarmRuns file = .ok (json, listings plugins.elements) :=
        bind_ok.mpr ⟨root, read, bind_ok.mpr ⟨config, configured, bind_ok.mpr ⟨plugins, listed,
          bind_ok.mpr ⟨json, sectioned, rfl⟩⟩⟩⟩
      have built : appMain lexicalCast made file = handled (listPlugins lexicalCast made root 0
          plugins.elements { mavVehicle := some config }) := by
        simp only [appMain, construction, read, configured, listed]
      have spared := listPlugins_spared lexicalCast made { mavVehicle := some config } plugins.elements
        ⟨rfl, rfl, rfl⟩ sectioned
      rw [Whole, ← built] at spared
      constructor
      · rintro ⟨app, returned, whole⟩ other count same least
        obtain ⟨rfl, rfl⟩ := Prod.mk.inj (Except.ok.inj (runs.symm.trans same))
        refine spared.mp ⟨app, returned, whole.imp_right ?_⟩ least
        rintro ⟨_, _, alike, found, assembled⟩
        obtain rfl := Except.ok.inj (read.symm.trans alike)
        obtain rfl := Except.ok.inj (sectioned.symm.trans found)
        exact assembled
      · intro spares
        obtain ⟨app, returned, whole⟩ := spared.mpr (spares json _ runs)
        exact ⟨app, returned, whole.imp_right fun assembled => ⟨root, json, read, sectioned, assembled⟩⟩

/-- A file that lists the plugin once, for a member without a URL of its own. -/
def strayMember : ConfigFile :=
  .parsed (.object [("Plugin List", .array [.string "SmallSwarm"]),
    ("SmallSwarm Section", .object [("Leader URL", .string "tcp://172.24.200.10:9872"),
      ("Sub-Leader URL", .string "tcp://172.24.200.110:9872"), ("Member No", .integer 5)])])

/-- The code thrown for a missing publisher escapes the constructor. -/
theorem contained_fails :
    ¬ ∀ (lexicalCast : String → Option (BitVec 16)) (made : Nat → Nat → Bool) (file : ConfigFile),
      Contained lexicalCast made file := by
  intro contained
  obtain ⟨app, returned, _⟩ := contained (fun _ => some 9872) (fun _ _ => true) strayMember
  have escaped : appMain (fun _ => some 9872) (fun _ _ => true) strayMember =
      .escaped (.thrown (-EBADR)) := rfl
  rw [escaped] at returned
  cases returned

end VehicleRunner.App
