import VehicleRunner.App.Admission

/-! The ids a configured vehicle tells the fleet apart by. Members are as many as there
are keys, and the id of each is a byte. -/

namespace VehicleRunner.App

open VehicleRunner.Foundation VehicleRunner.Bundle VehicleRunner.Plugin Json

/-- The id published under, then those subscribed to. -/
def Vehicle.identities (vehicle : Vehicle) : List Byte :=
  vehicle.publish.vehicleId :: vehicle.subscribes.map ZmqSubscribe.Config.vehicleId

/-- No two vehicles share an id, and none has the id that stands for no vehicle. -/
structure Vehicle.Identified (vehicle : Vehicle) : Prop where
  distinct : vehicle.identities.Nodup
  known : ZMQ.vehicleIdUnknown ∉ vehicle.identities

/-- The members there are ids for. -/
def memberCapacity : Nat := 2 ^ 8 - 1 - ZMQ.vehicleIdMemberNul

example : (memberId memberCapacity, memberId (memberCapacity + 1)) =
    (255, ZMQ.vehicleIdUnknown) := rfl

/-- A packet is taken by the subscriber of one vehicle only. -/
theorem Vehicle.Identified.sender {vehicle : Vehicle} (identified : vehicle.Identified)
    {first second : ZmqSubscribe.Config} (subscribed : first ∈ vehicle.subscribes)
    (other : second ∈ vehicle.subscribes) {packet : List Byte}
    (heard : (ZmqSubscribe.decode first.vehicleId packet).isSome)
    (again : (ZmqSubscribe.decode second.vehicleId packet).isSome) : first = second := by
  have header {vehicleId : Byte} (taken : (ZmqSubscribe.decode vehicleId packet).isSome) :
      packet[0]? = some vehicleId := by
    unfold ZmqSubscribe.decode at taken
    split at taken
    · rename_i accepted
      exact accepted.2.1
    · cases taken
  have same : first.vehicleId = second.vehicleId :=
    Option.some.inj ((header heard).symm.trans (header again))
  exact List.inj_on_of_nodup_map (List.nodup_cons.mp identified.distinct).2 subscribed other same

/-! ## How many members the ids last for -/

variable {lexicalCast : String → Option (BitVec 16)} {construct : Nat → Except Exception Unit}
  {json : Value}

/-- Whatever its seat, a vehicle's identities are those of the fleet. -/
theorem Deployed.identities {vehicle : Vehicle} {vehicles : List ZmqSubscribe.Config} {role : Role}
    {url : String} (deployed : Deployed lexicalCast json vehicle vehicles role url) :
    vehicle.identities.Perm (vehicles.map ZmqSubscribe.Config.vehicleId) := by
  obtain ⟨inside, own⟩ := List.getElem?_eq_some_iff.mp deployed.seated.own
  have whole := (List.getElem_cons_eraseIdx_perm inside).map ZmqSubscribe.Config.vehicleId
  rwa [own, ← deployed.seated.others] at whole

/-- One member too many gets the id of no vehicle. -/
theorem fleet_unknown_iff {vehicles : List ZmqSubscribe.Config} (loaded : fleet json = .ok vehicles)
    {urls : List String} (read : memberUrls json (turnsFor json) 1 = .ok urls) :
    ZMQ.vehicleIdUnknown ∈ vehicles.map ZmqSubscribe.Config.vehicleId ↔
      memberCapacity < urls.length := by
  obtain ⟨leaderUrl, subLeaderUrl, urls', _, _, read', rfl⟩ := fleet_ok_iff.mp loaded
  obtain rfl : urls' = urls := Except.ok.inj (read'.symm.trans read)
  constructor
  · intro unknown
    by_contra few
    have small : 10 + 1 + urls'.length ≤ 256 := by
      simp only [memberCapacity, ZMQ.vehicleIdMemberNul] at few
      omega
    obtain ⟨_, above⟩ := memberEntries_ids 1 urls' small
    obtain ⟨entry, member, same⟩ := List.mem_map.mp unknown
    rcases List.mem_cons.mp member with rfl | member
    · cases same
    rcases List.mem_cons.mp member with rfl | member
    · cases same
    have least := above entry member
    rw [same] at least
    exact absurd least (by decide)
  · intro many
    have entry : (memberEntries 1 urls')[memberCapacity]? =
        some ⟨memberId (1 + memberCapacity), urls'[memberCapacity]⟩ := by
      rw [memberEntries_getElem?, List.getElem?_eq_getElem many]
      rfl
    have wrapped : memberId (1 + memberCapacity) = ZMQ.vehicleIdUnknown := rfl
    rw [wrapped] at entry
    apply List.mem_map.mpr
    exact ⟨_, List.mem_cons_of_mem _ (List.mem_cons_of_mem _ (List.mem_of_getElem? entry)), rfl⟩

/-- The identities last exactly for the members there are ids for. -/
theorem Deployed.identified_iff {vehicle : Vehicle} {vehicles : List ZmqSubscribe.Config}
    {role : Role} {url : String} (deployed : Deployed lexicalCast json vehicle vehicles role url)
    {urls : List String} (read : memberUrls json (turnsFor json) 1 = .ok urls) :
    vehicle.Identified ↔ urls.length ≤ memberCapacity := by
  have loaded := deployed.seated.loaded
  constructor
  · intro identified
    by_contra many
    have unknown := (fleet_unknown_iff loaded read).mpr (Nat.lt_of_not_le many)
    exact identified.known (deployed.identities.mem_iff.mpr unknown)
  · intro few
    constructor
    · apply deployed.identities.nodup_iff.mpr
      apply fleet_ids loaded
      intro urls' read'
      obtain rfl : urls = urls' := Except.ok.inj (read.symm.trans read')
      exact few
    · intro unknown
      have many := (fleet_unknown_iff loaded read).mp (deployed.identities.mem_iff.mp unknown)
      exact absurd few (Nat.not_le_of_lt many)

/-- At most `capacity` members are loaded exactly if one of the first `capacity + 1` keys
the loop looks at is not filled. -/
theorem memberUrls_short_iff {turns : Nat} {urls : List String}
    (read : memberUrls json turns 1 = .ok urls) (capacity : Nat) :
    urls.length ≤ capacity ↔ ∃ number member, 2 ≤ number ∧ number ≤ capacity + 2 ∧
      json.get (memberKey number) = .ok member ∧ member.empty = true := by
  obtain ⟨through, member, found, stop⟩ := memberUrls_extent read
  constructor
  · intro few
    exact ⟨1 + 1 + urls.length, member, by omega, by omega, found, stop⟩
  · intro gap
    obtain ⟨number, other, least, most, looked, unfilled⟩ := gap
    by_contra many
    obtain ⟨filled, same, full⟩ := through (number - 2) (by omega)
    rw [show 1 + 1 + (number - 2) = number by omega, looked] at same
    obtain rfl := Except.ok.inj same
    rw [unfilled] at full
    cases full

/-- A vehicle's identities are distinct and known exactly when the members end at one of
the keys `Member 2` to `Member 247`. -/
theorem identities_distinct_iff (lexicalCast : String → Option (BitVec 16))
    (construct : Nat → Except Exception Unit) (json : Value) (app final : AppMain)
    (ran : pluginSmallSwarm lexicalCast construct json app = (.ok (), final)) :
    (∃ vehicle, final.vehicle? = some vehicle ∧ vehicle.Identified) ↔
      ∃ number member, 2 ≤ number ∧ number ≤ 247 ∧
        json.get (memberKey number) = .ok member ∧ member.empty = true := by
  obtain ⟨vehicle, vehicles, role, url, present, deployed⟩ := pluginSmallSwarm_deployed ran
  obtain ⟨_, _, urls, _, _, read, _⟩ := fleet_ok_iff.mp deployed.seated.loaded
  have only : (∃ vehicle, final.vehicle? = some vehicle ∧ vehicle.Identified) ↔
      vehicle.Identified := by
    constructor
    · intro held
      obtain ⟨other, same, identified⟩ := held
      obtain rfl := Option.some.inj (same.symm.trans present)
      exact identified
    · intro identified
      exact ⟨vehicle, present, identified⟩
  have capacity : memberCapacity + 2 = 247 := rfl
  rw [only, deployed.identified_iff read, memberUrls_short_iff read, capacity]

theorem identities_distinct_sample : ∃ final vehicle,
    pluginSmallSwarm samplePort (fun _ => .ok ()) (sampleSection [("Leader", .bool true)]) {} =
      (.ok (), final) ∧
    final.vehicle? = some vehicle ∧ vehicle.Identified := by
  obtain ⟨vehicle, present, identified⟩ := (identities_distinct_iff samplePort (fun _ => .ok ())
    (sampleSection [("Leader", .bool true)]) {} _ rfl).mpr
    ⟨4, .null, by decide, by decide, rfl, rfl⟩
  exact ⟨_, vehicle, rfl, present, identified⟩

/-! ## A section that runs out of ids -/

theorem memberUrls_filled {url : String} {count n turns : Nat}
    (filled : ∀ index < count, json.get (memberKey (n + 1 + index)) = .ok (.string url))
    (stop : json.get (memberKey (n + 1 + count)) = .ok .null) (enough : count < turns) :
    memberUrls json turns n = .ok (List.replicate count url) := by
  obtain ⟨turns, rfl⟩ := Nat.exists_eq_add_one.mpr (Nat.zero_lt_of_lt enough)
  induction count generalizing n turns with
  | zero =>
    simp only [memberUrls, stop, bind, Except.bind, Value.empty]
    rfl
  | succ count ih =>
    obtain ⟨fewer, rfl⟩ := Nat.exists_eq_add_one.mpr (Nat.zero_lt_of_lt (Nat.lt_of_succ_lt_succ enough))
    have later : memberUrls json (fewer + 1) (n + 1) = .ok (List.replicate count url) := by
      apply ih
      · intro index below
        have next := filled (index + 1) (Nat.succ_lt_succ below)
        rwa [show n + 1 + (index + 1) = n + 1 + 1 + index by omega] at next
      · rwa [show n + 1 + 1 + count = n + 1 + (count + 1) by omega]
      · exact Nat.lt_of_succ_lt_succ enough
    have first := filled 0 (Nat.succ_pos count)
    rw [memberUrls, show n + 1 = n + 1 + 0 from rfl, first]
    simp only [bind, Except.bind, Value.empty, Value.asString]
    rw [later]
    rfl

/-- Members from the second on, all under one URL. -/
def crowd (url : String) (count : Nat) : List (String × Value) :=
  (List.range count).map fun index => (memberKey (index + 2), .string url)

theorem crowd_lookup {url : String} {count index : Nat} (below : index < count) :
    (crowd url count).lookup (memberKey (index + 2)) = some (.string url) := by
  have listed : (memberKey (index + 2), Value.string url) ∈ crowd url count :=
    List.mem_map.mpr ⟨index, List.mem_range.mpr below, rfl⟩
  cases looked : (crowd url count).lookup (memberKey (index + 2)) with
  | none =>
    have other := List.lookup_eq_none_iff.mp looked _ listed
    simp at other
  | some value =>
    obtain ⟨before, after, whole, _⟩ := List.lookup_eq_some_iff.mp looked
    have found : (memberKey (index + 2), value) ∈ crowd url count := by
      rw [whole]
      simp
    obtain ⟨_, _, same⟩ := List.mem_map.mp found
    exact congrArg some (congrArg Prod.snd same).symm

/-- A leader's section may have as many members as it likes. -/
theorem crowd_usable (url : String) (count : Nat) : ∃ json vehicles,
    Usable samplePort json vehicles ∧
      memberUrls json (turnsFor json) 1 = .ok (List.replicate count url) := by
  let json := leaderSection (crowd url count)
  have read : memberUrls json (turnsFor json) 1 = .ok (List.replicate count url) := by
    apply memberUrls_filled
    · intro index below
      rw [leaderSection_member, show 1 + 1 + index = index + 2 by omega, crowd_lookup below]
      rfl
    · apply leaderSection_get
      intro entry member same
      obtain ⟨index, below, rfl⟩ := List.mem_map.mp member
      have number : index + 2 = 1 + 1 + count := memberKey_injective same
      have inside := List.mem_range.mp below
      omega
    · simp only [json, turnsFor, leaderSection, Value.keys, crowd, List.length_map,
        List.length_append, List.length_range]
      omega
  have unnumbered : json.readInt JsonKey.smallSwarmMemberNo = .ok 0 := by
    have missing : (crowd url count).lookup JsonKey.smallSwarmMemberNo = none := by
      rw [List.lookup_eq_none_iff]
      intro entry member
      obtain ⟨index, _, rfl⟩ := List.mem_map.mp member
      simpa only [bne_iff_ne] using (memberKey_ne_memberNo (index + 2)).symm
    apply bind_ok.mpr
    refine ⟨.null, ?_, rfl⟩
    rw [leaderSection_lookup _ (by decide), missing]
    rfl
  have leads (number : Int) (member : Role.leader = .member number) : 2 ≤ number := by
    cases member
  have loaded : fleet json = .ok (⟨ZMQ.vehicleIdLeader, "tcp://172.24.200.10:9872"⟩ ::
      ⟨ZMQ.vehicleIdSubLeader, "tcp://172.24.200.110:9872"⟩ ::
        memberEntries 1 (List.replicate count url)) :=
    fleet_ok_iff.mpr ⟨_, _, _, rfl, rfl, read, rfl⟩
  exact ⟨json, _, ⟨loaded, .leader, 0, _, 9872, rfl, unnumbered, leads, rfl, rfl⟩, read⟩

/-- With 246 members the last gets the id that stands for no vehicle. -/
theorem identities_collide :
    ¬ ∀ (lexicalCast : String → Option (BitVec 16)) (construct : Nat → Except Exception Unit)
      (json : Value) (app final : AppMain),
      pluginSmallSwarm lexicalCast construct json app = (.ok (), final) →
      ∃ vehicle, final.vehicle? = some vehicle ∧ vehicle.Identified := by
  intro identified
  obtain ⟨json, vehicles, usable, read⟩ := crowd_usable "tcp://172.24.200.111:9872" 246
  obtain ⟨_, _, configured, _⟩ := usable.configures
  have constructs (socket : Nat) : (fun _ => .ok () : Nat → Except Exception Unit) socket = .ok () :=
    rfl
  obtain ⟨_, success, _⟩ := pluginSmallSwarm_configured constructs configured {}
  have ran : pluginSmallSwarm samplePort (fun _ => .ok ()) json {} =
      (.ok (), (pluginSmallSwarm samplePort (fun _ => .ok ()) json {}).2) := Prod.ext success rfl
  obtain ⟨vehicle, present, named⟩ := identified _ _ _ _ _ ran
  obtain ⟨other, _, _, _, same, deployed⟩ := pluginSmallSwarm_deployed ran
  obtain rfl := Option.some.inj (same.symm.trans present)
  have few := (deployed.identified_iff read).mp named
  rw [List.length_replicate] at few
  exact absurd few (by decide)

end VehicleRunner.App
