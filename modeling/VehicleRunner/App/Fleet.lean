import VehicleRunner.App.MemberLoop

/-! The fleet a section describes, whichever vehicle reads it, and a vehicle's own
configuration as one seat of it: it publishes as that seat and subscribes to all
the others. -/

namespace VehicleRunner.App

open VehicleRunner.Foundation VehicleRunner.Bundle VehicleRunner.Plugin Json

inductive Role where
  | leader
  | subLeader
  | member (number : Int)
  deriving DecidableEq

/-- The role a section selects. -/
def roleOf (json : Value) : Except Exception Role := do
  if ← json.readBool JsonKey.smallSwarmLeader then return .leader
  else if ← json.readBool JsonKey.smallSwarmSubLeader then return .subLeader
  else
    let number ← json.readInt JsonKey.smallSwarmMemberNo
    return .member number

/-- The key a role's own URL stands under. -/
def Role.urlKey : Role → String
  | .leader => JsonKey.smallSwarmLeaderUrl
  | .subLeader => JsonKey.smallSwarmSubLeaderUrl
  | .member number => memberKey number.toNat

/-- The URL of the vehicle that reads the section. -/
def ownUrl (json : Value) : Except Exception String := do
  let role ← roleOf json
  json.readString role.urlKey

/-- Every vehicle of the section with its id and URL, leader first. -/
def fleet (json : Value) : Except Exception (List ZmqSubscribe.Config) := do
  let leaderUrl ← json.readString JsonKey.smallSwarmLeaderUrl
  let subLeaderUrl ← json.readString JsonKey.smallSwarmSubLeaderUrl
  let urls ← memberUrls json (turnsFor json) 1
  return ⟨ZMQ.vehicleIdLeader, leaderUrl⟩ :: ⟨ZMQ.vehicleIdSubLeader, subLeaderUrl⟩ ::
    memberEntries 1 urls

/-- What loading a fleet takes, and what it gives. -/
theorem fleet_ok_iff {json : Value} {vehicles : List ZmqSubscribe.Config} :
    fleet json = .ok vehicles ↔ ∃ leaderUrl subLeaderUrl urls,
      json.readString JsonKey.smallSwarmLeaderUrl = .ok leaderUrl ∧
      json.readString JsonKey.smallSwarmSubLeaderUrl = .ok subLeaderUrl ∧
      memberUrls json (turnsFor json) 1 = .ok urls ∧
      vehicles = ⟨ZMQ.vehicleIdLeader, leaderUrl⟩ :: ⟨ZMQ.vehicleIdSubLeader, subLeaderUrl⟩ ::
        memberEntries 1 urls := by
  constructor
  · intro loaded
    obtain ⟨leaderUrl, leaderRead, loaded⟩ := bind_ok.mp loaded
    obtain ⟨subLeaderUrl, subLeaderRead, loaded⟩ := bind_ok.mp loaded
    obtain ⟨urls, read, loaded⟩ := bind_ok.mp loaded
    exact ⟨leaderUrl, subLeaderUrl, urls, leaderRead, subLeaderRead, read, (Except.ok.inj loaded).symm⟩
  · intro parts
    obtain ⟨leaderUrl, subLeaderUrl, urls, leaderRead, subLeaderRead, read, rfl⟩ := parts
    exact bind_ok.mpr ⟨leaderUrl, leaderRead, bind_ok.mpr ⟨subLeaderUrl, subLeaderRead,
      bind_ok.mpr ⟨urls, read, rfl⟩⟩⟩

/-- Where a role sits in the fleet; the members loaded are numbered from two. -/
def Role.seat : Role → Nat
  | .leader => 0
  | .subLeader => 1
  | .member number => number.toNat

/-- A vehicle's configurations as one seat of the fleet. -/
structure Seated (json : Value) (vehicles : List ZmqSubscribe.Config) (role : Role)
    (pubConfig : ZmqPublish.Config) (subscribeConfigs : List ZmqSubscribe.Config) : Prop where
  loaded : fleet json = .ok vehicles
  selected : roleOf json = .ok role
  readable : ∃ number, json.readInt JsonKey.smallSwarmMemberNo = .ok number
  numbered : ∀ number, role = .member number → 2 ≤ number
  url : json.readString role.urlKey = .ok pubConfig.localUrl
  own : vehicles[role.seat]? = some ⟨pubConfig.vehicleId, pubConfig.localUrl⟩
  others : subscribeConfigs = vehicles.eraseIdx role.seat

/-- The flags a selected role stands for. -/
theorem roleOf_flags {json : Value} {role : Role} (selected : roleOf json = .ok role) :
    json.readBool JsonKey.smallSwarmLeader = .ok (decide (role = .leader)) ∧
    (role ≠ .leader →
      json.readBool JsonKey.smallSwarmSubLeader = .ok (decide (role = .subLeader))) := by
  obtain ⟨leads, leader, selected⟩ := bind_ok.mp selected
  cases leads with
  | true =>
    cases selected
    exact ⟨leader, fun other => absurd rfl other⟩
  | false =>
    simp only [Bool.false_eq_true, ↓reduceIte] at selected
    obtain ⟨seconds, subLeader, selected⟩ := bind_ok.mp selected
    cases seconds with
    | true =>
      cases selected
      exact ⟨leader, fun _ => subLeader⟩
    | false =>
      simp only [Bool.false_eq_true, ↓reduceIte] at selected
      obtain ⟨number, _, selected⟩ := bind_ok.mp selected
      cases selected
      exact ⟨leader, fun _ => subLeader⟩

/-- Everything the branches on the role flags can come to. -/
theorem selectRole_cases {json : Value} {start : Selection} (begun : selectRole json = .ok start) :
    ∃ leaderUrl subLeaderUrl,
      json.readString JsonKey.smallSwarmLeaderUrl = .ok leaderUrl ∧
      json.readString JsonKey.smallSwarmSubLeaderUrl = .ok subLeaderUrl ∧
      ((roleOf json = .ok .leader ∧
          start = ⟨some ⟨ZMQ.vehicleIdLeader, leaderUrl⟩, [⟨ZMQ.vehicleIdSubLeader, subLeaderUrl⟩]⟩) ∨
        (roleOf json = .ok .subLeader ∧
          start = ⟨some ⟨ZMQ.vehicleIdSubLeader, subLeaderUrl⟩, [⟨ZMQ.vehicleIdLeader, leaderUrl⟩]⟩) ∨
        ((∀ number, json.readInt JsonKey.smallSwarmMemberNo = .ok number →
            roleOf json = .ok (.member number)) ∧
          start = ⟨none, [⟨ZMQ.vehicleIdLeader, leaderUrl⟩, ⟨ZMQ.vehicleIdSubLeader, subLeaderUrl⟩]⟩)) := by
  obtain ⟨leads, leader, begun⟩ := bind_ok.mp begun
  cases leads with
  | true =>
    simp only [↓reduceIte] at begun
    obtain ⟨leaderUrl, leaderRead, begun⟩ := bind_ok.mp begun
    obtain ⟨subLeaderUrl, subLeaderRead, begun⟩ := bind_ok.mp begun
    cases begun
    have selected : roleOf json = .ok .leader := by simp only [roleOf, leader]; rfl
    exact ⟨leaderUrl, subLeaderUrl, leaderRead, subLeaderRead, .inl ⟨selected, rfl⟩⟩
  | false =>
    simp only [Bool.false_eq_true, ↓reduceIte] at begun
    obtain ⟨seconds, subLeader, begun⟩ := bind_ok.mp begun
    cases seconds with
    | true =>
      simp only [↓reduceIte] at begun
      obtain ⟨subLeaderUrl, subLeaderRead, begun⟩ := bind_ok.mp begun
      obtain ⟨leaderUrl, leaderRead, begun⟩ := bind_ok.mp begun
      cases begun
      have selected : roleOf json = .ok .subLeader := by simp only [roleOf, leader, subLeader]; rfl
      exact ⟨leaderUrl, subLeaderUrl, leaderRead, subLeaderRead, .inr (.inl ⟨selected, rfl⟩)⟩
    | false =>
      simp only [Bool.false_eq_true, ↓reduceIte] at begun
      obtain ⟨leaderUrl, leaderRead, begun⟩ := bind_ok.mp begun
      obtain ⟨subLeaderUrl, subLeaderRead, begun⟩ := bind_ok.mp begun
      cases begun
      refine ⟨leaderUrl, subLeaderUrl, leaderRead, subLeaderRead, .inr (.inr ⟨?_, rfl⟩)⟩
      intro number read
      simp only [roleOf, leader, subLeader, read]
      rfl

/-- A publisher is chosen exactly as the seat of the selected role. -/
theorem select_seated {json : Value} {selection : Selection} {pubConfig : ZmqPublish.Config}
    (selected : select json = .ok selection) (chosen : selection.publishOption = some pubConfig) :
    ∃ vehicles role, Seated json vehicles role pubConfig selection.subscribeConfigs := by
  obtain ⟨start, begun, selected⟩ := bind_ok.mp selected
  obtain ⟨vehicleId, number, selected⟩ := bind_ok.mp selected
  obtain ⟨urls, read, placed⟩ : ∃ urls, memberUrls json (turnsFor json) 1 = .ok urls ∧
      placeAll vehicleId 1 urls start = selection := by
    rw [memberLoop_eq] at selected
    cases read : memberUrls json (turnsFor json) 1 with
    | error raised => rw [read] at selected; cases selected
    | ok urls => rw [read] at selected; exact ⟨urls, rfl, Except.ok.inj selected⟩
  obtain ⟨leaderUrl, subLeaderUrl, leaderRead, subLeaderRead, branch⟩ := selectRole_cases begun
  have loaded : fleet json = .ok (⟨ZMQ.vehicleIdLeader, leaderUrl⟩ ::
      ⟨ZMQ.vehicleIdSubLeader, subLeaderUrl⟩ :: memberEntries 1 urls) :=
    fleet_ok_iff.mpr ⟨leaderUrl, subLeaderUrl, urls, leaderRead, subLeaderRead, read, rfl⟩
  have readable : ∃ number, json.readInt JsonKey.smallSwarmMemberNo = .ok number :=
    ⟨vehicleId, number⟩
  rcases branch with ⟨role, rfl⟩ | ⟨role, rfl⟩ | ⟨role, rfl⟩
  · rw [placeAll_chosen] at placed
    subst placed
    cases chosen
    exact ⟨_, .leader, loaded, role, readable, nofun, leaderRead, rfl, rfl⟩
  · rw [placeAll_chosen] at placed
    subst placed
    cases chosen
    exact ⟨_, .subLeader, loaded, role, readable, nofun, subLeaderRead, rfl, rfl⟩
  · obtain ⟨index, same, found, whole⟩ := placeAll_open (by rw [placed]; exact chosen)
    rw [placed] at whole
    subst whole
    have seat : vehicleId.toNat = index + 2 := by omega
    have entry := found
    rw [memberEntries_getElem?, Option.map_eq_some_iff] at entry
    obtain ⟨url, listed, config⟩ := entry
    obtain rfl : url = pubConfig.localUrl := congrArg ZmqSubscribe.Config.remoteUrl config
    refine ⟨_, .member vehicleId, loaded, role vehicleId number, readable, ?_, ?_, ?_, ?_⟩
    · rintro _ ⟨rfl⟩
      omega
    · have key := memberUrls_read read listed
      rwa [show 1 + 1 + index = vehicleId.toNat by omega] at key
    · rw [Role.seat, seat]
      exact found
    · simp only [Role.seat, seat, List.eraseIdx_cons_succ]
      rfl

/-- With members for at most the ids that are left, no two vehicles share one. -/
theorem fleet_ids {json : Value} {vehicles : List ZmqSubscribe.Config} (loaded : fleet json = .ok vehicles)
    (few : ∀ urls, memberUrls json (turnsFor json) 1 = .ok urls → urls.length ≤ 245) :
    (vehicles.map ZmqSubscribe.Config.vehicleId).Nodup := by
  obtain ⟨leaderUrl, subLeaderUrl, urls, _, _, read, rfl⟩ := fleet_ok_iff.mp loaded
  have bounded := few urls read
  obtain ⟨distinct, above⟩ := memberEntries_ids 1 urls (by omega)
  have apart {vehicleId : Byte} (small : vehicleId.toNat < 11) :
      vehicleId ∉ (memberEntries 1 urls).map ZmqSubscribe.Config.vehicleId := by
    intro repeated
    obtain ⟨entry, member, rfl⟩ := List.mem_map.mp repeated
    exact absurd (above entry member) (Nat.not_le_of_lt small)
  have leader : ZMQ.vehicleIdLeader.toNat < 11 := by decide
  have subLeader : ZMQ.vehicleIdSubLeader.toNat < 11 := by decide
  have different : ZMQ.vehicleIdLeader ≠ ZMQ.vehicleIdSubLeader := by decide
  refine List.nodup_cons.mpr ⟨?_, List.nodup_cons.mpr ⟨apart subLeader, distinct⟩⟩
  intro repeated
  rcases List.mem_cons.mp repeated with same | later
  · exact different same
  · exact apart leader later

/-! ## What a successful run leaves in the program -/

/-- The components a run of `_pluginSmallSwarm` sets, all of them present. -/
structure Vehicle where
  publish : ZmqPublish.Config
  subscribes : List ZmqSubscribe.Config
  swarm : SmallSwarm.Config

def AppMain.vehicle? (app : AppMain) : Option Vehicle := do
  let publish ← app.zmqPublish
  let subscribes ← app.zmqSubscribes
  let swarm ← app.smallSwarm
  return ⟨publish, subscribes, swarm⟩

variable {lexicalCast : String → Option (BitVec 16)} {construct : Nat → Except Exception Unit}

theorem makeSubscribes_ok {socket : Nat} {configs : List ZmqSubscribe.Config}
    (made : (makeSubscribes construct socket configs).1 = .ok ()) :
    (makeSubscribes construct socket configs).2 = configs := by
  induction configs generalizing socket with
  | nil => rfl
  | cons config configs ih =>
    cases built : construct socket with
    | error raised =>
      simp only [makeSubscribes, built] at made
      cases made
    | ok _ =>
      simp only [makeSubscribes, built] at made ⊢
      rw [ih made]

theorem assemble_ok {pubConfig : ZmqPublish.Config} {subscribeConfigs : List ZmqSubscribe.Config}
    {app final : AppMain}
    (assembled : assemble construct pubConfig subscribeConfigs app = (.ok (), final)) :
    ∃ swarm, final.vehicle? = some ⟨pubConfig, subscribeConfigs, swarm⟩ ∧
      swarm.vehicleId = pubConfig.vehicleId := by
  unfold assemble at assembled
  cases built : construct 0 with
  | error raised =>
    simp only [built] at assembled
    cases assembled
  | ok _ =>
    simp only [built] at assembled
    cases made : (makeSubscribes construct 1 subscribeConfigs).1 with
    | error raised =>
      simp only [made] at assembled
      cases assembled
    | ok _ =>
      simp only [made, makeSubscribes_ok made] at assembled
      cases assembled
      exact ⟨_, rfl, rfl⟩

theorem configure_ok {json : Value} {pubConfig : ZmqPublish.Config}
    {subscribeConfigs : List ZmqSubscribe.Config}
    (configured : configure lexicalCast json = .ok (pubConfig, subscribeConfigs)) :
    ∃ selection own port, select json = .ok selection ∧ selection.publishOption = some own ∧
      lexicalCast (portText own.localUrl) = some port ∧
      pubConfig = { own with localUrl := bindUrl port } ∧
      subscribeConfigs = selection.subscribeConfigs := by
  obtain ⟨selection, selected, configured⟩ := bind_ok.mp configured
  cases chosen : selection.publishOption with
  | none =>
    simp only [chosen] at configured
    cases configured
  | some own =>
    cases cast : lexicalCast (portText own.localUrl) with
    | none =>
      simp only [chosen, cast] at configured
      cases configured
    | some port =>
      simp only [chosen, cast] at configured
      cases configured
      exact ⟨selection, own, port, selected, chosen, cast, rfl, rfl⟩

theorem configure_of {json : Value} {selection : Selection} {own : ZmqPublish.Config}
    {port : BitVec 16} (selected : select json = .ok selection)
    (chosen : selection.publishOption = some own)
    (cast : lexicalCast (portText own.localUrl) = some port) :
    configure lexicalCast json =
      .ok ({ own with localUrl := bindUrl port }, selection.subscribeConfigs) := by
  refine bind_ok.mpr ⟨selection, selected, ?_⟩
  simp only [chosen, cast]
  rfl

/-- A vehicle configured by a section: its seat in the fleet, the port it binds,
and the id its swarm carries. -/
structure Deployed (lexicalCast : String → Option (BitVec 16)) (json : Value) (vehicle : Vehicle)
    (vehicles : List ZmqSubscribe.Config) (role : Role) (url : String) : Prop where
  seated : Seated json vehicles role ⟨vehicle.publish.vehicleId, url⟩ vehicle.subscribes
  bound : ∃ port, lexicalCast (portText url) = some port ∧ vehicle.publish.localUrl = bindUrl port
  swarm : vehicle.swarm.vehicleId = vehicle.publish.vehicleId

theorem pluginSmallSwarm_deployed {json : Value} {app final : AppMain}
    (ran : pluginSmallSwarm lexicalCast construct json app = (.ok (), final)) :
    ∃ vehicle vehicles role url, final.vehicle? = some vehicle ∧
      Deployed lexicalCast json vehicle vehicles role url := by
  unfold pluginSmallSwarm at ran
  cases configured : configure lexicalCast json with
  | error raised =>
    simp only [configured] at ran
    cases ran
  | ok configs =>
    obtain ⟨pubConfig, subscribeConfigs⟩ := configs
    simp only [configured] at ran
    obtain ⟨swarm, present, same⟩ := assemble_ok ran
    obtain ⟨selection, own, port, selected, chosen, cast, rfl, rfl⟩ := configure_ok configured
    obtain ⟨vehicles, role, seated⟩ := select_seated selected chosen
    exact ⟨_, vehicles, role, own.localUrl, present, seated, ⟨port, cast, rfl⟩, same⟩

theorem Deployed.ownUrl {json : Value} {vehicle : Vehicle} {vehicles : List ZmqSubscribe.Config}
    {role : Role} {url : String} (deployed : Deployed lexicalCast json vehicle vehicles role url) :
    ownUrl json = .ok url :=
  bind_ok.mpr ⟨role, deployed.seated.selected, deployed.seated.url⟩

end VehicleRunner.App
