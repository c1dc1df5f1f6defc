import VehicleRunner.App.Agreement
import VehicleRunner.App.Selection

/-! The fleet as the keys and ids document it, `Member 1` included, against the one
the program loads: the member loop begins at the second key with the first id. -/

namespace VehicleRunner.App

open VehicleRunner.Foundation VehicleRunner.Bundle VehicleRunner.Plugin Json

/-- A section with a URL for the leader, the sub-leader and exactly `count` members. -/
structure Defines (lexicalCast : String → Option (BitVec 16)) (json : Value) (count : Nat)
    (leaderUrl subLeaderUrl : String) (memberUrl : Nat → String) : Prop where
  leader : json.get JsonKey.smallSwarmLeaderUrl = .ok (.string leaderUrl)
  subLeader : json.get JsonKey.smallSwarmSubLeaderUrl = .ok (.string subLeaderUrl)
  member : ∀ number, 1 ≤ number → number ≤ count →
    json.get (memberKey number) = .ok (.string (memberUrl number))
  noOther : ∀ number, ¬ (1 ≤ number ∧ number ≤ count) → json.get (memberKey number) = .ok .null
  filled : ∀ number, 1 ≤ number → number ≤ count → memberUrl number ≠ ""
  leaderPort : (lexicalCast (portText leaderUrl)).isSome
  subLeaderPort : (lexicalCast (portText subLeaderUrl)).isSome
  memberPort : ∀ number, 1 ≤ number → number ≤ count →
    (lexicalCast (portText (memberUrl number))).isSome

/-- Every vehicle of such a section under its documented id. -/
def documentedFleet (count : Nat) (leaderUrl subLeaderUrl : String) (memberUrl : Nat → String) :
    List ZmqSubscribe.Config :=
  ⟨ZMQ.vehicleIdLeader, leaderUrl⟩ :: ⟨ZMQ.vehicleIdSubLeader, subLeaderUrl⟩ ::
    (List.range count).map fun index => ⟨memberId (index + 1), memberUrl (index + 1)⟩

def Role.documentedId : Role → Byte
  | .leader => ZMQ.vehicleIdLeader
  | .subLeader => ZMQ.vehicleIdSubLeader
  | .member number => memberId number.toNat

example : [1, 2, 3].map (fun number => (Role.member number).documentedId) =
    [ZMQ.vehicleIdMember1, ZMQ.vehicleIdMember2, ZMQ.vehicleIdMember3].map (BitVec.ofNat 8) := rfl

/-- A role of a fleet with so many members. -/
def Role.Documented (count : Nat) : Role → Prop
  | .leader => True
  | .subLeader => True
  | .member number => 1 ≤ number ∧ number ≤ count

/-- The run succeeded, publishes under the role's id and subscribes to exactly the
other vehicles. -/
def Admitted (vehicles : List ZmqSubscribe.Config) (role : Role)
    (outcome : Except Exception Unit × AppMain) : Prop :=
  ∃ vehicle, outcome.1 = .ok () ∧ outcome.2.vehicle? = some vehicle ∧
    vehicle.publish.vehicleId = role.documentedId ∧
    vehicle.subscribes.Perm (vehicles.filter fun entry => entry.vehicleId ≠ role.documentedId)

variable {lexicalCast : String → Option (BitVec 16)} {construct : Nat → Except Exception Unit}
  {json : Value} {count : Nat} {leaderUrl subLeaderUrl : String} {memberUrl : Nat → String}

/-- One member is never loaded. -/
theorem Defines.loaded (defines : Defines lexicalCast json count leaderUrl subLeaderUrl memberUrl)
    {turns : Nat} {urls : List String} (read : memberUrls json turns 1 = .ok urls) :
    urls.length = count - 1 := by
  obtain ⟨through, member, found, stop⟩ := memberUrls_extent read
  have beyond : ¬ 1 + 1 + urls.length ≤ count := by
    intro within
    rw [defines.member _ (by omega) within] at found
    cases found
    cases stop
  by_contra different
  have short : count - 1 < urls.length := by omega
  obtain ⟨member, found, filled⟩ := through (count - 1) short
  rw [defines.noOther _ (by omega)] at found
  cases found
  cases filled

/-- No vehicle is loaded under the documented id of the last member. -/
theorem Defines.last_missing
    (defines : Defines lexicalCast json count leaderUrl subLeaderUrl memberUrl)
    (small : 10 + count ≤ 255) (some : 1 ≤ count) {vehicles : List ZmqSubscribe.Config}
    (loaded : fleet json = .ok vehicles) :
    ∀ entry ∈ vehicles, entry.vehicleId ≠ memberId count := by
  obtain ⟨_, _, urls, _, _, read, rfl⟩ := fleet_ok_iff.mp loaded
  have last : (memberId count).toNat = 10 + count := memberId_toNat small
  intro entry member same
  have number : entry.vehicleId.toNat = 10 + count := by rw [same, last]
  rcases List.mem_cons.mp member with rfl | member
  · simp [ZMQ.vehicleIdLeader] at number
    omega
  rcases List.mem_cons.mp member with rfl | member
  · simp [ZMQ.vehicleIdSubLeader] at number
    omega
  obtain ⟨index, found⟩ := List.getElem?_of_mem member
  rw [memberEntries_getElem?, Option.map_eq_some_iff] at found
  obtain ⟨url, listed, rfl⟩ := found
  have below := (List.getElem?_eq_some_iff.mp listed).1
  rw [defines.loaded read] at below
  rw [memberId_toNat (by omega)] at number
  omega

/-- With every socket constructed, what was configured is what the program holds. -/
theorem makeSubscribes_all (constructs : ∀ socket, construct socket = .ok ()) (socket : Nat)
    (configs : List ZmqSubscribe.Config) :
    makeSubscribes construct socket configs = (.ok (), configs) := by
  induction configs generalizing socket with
  | nil => rfl
  | cons config configs ih => simp only [makeSubscribes, constructs, ih]

theorem pluginSmallSwarm_configured (constructs : ∀ socket, construct socket = .ok ())
    {pubConfig : ZmqPublish.Config} {subscribeConfigs : List ZmqSubscribe.Config}
    (configured : configure lexicalCast json = .ok (pubConfig, subscribeConfigs)) (app : AppMain) :
    ∃ swarm, (pluginSmallSwarm lexicalCast construct json app).1 = .ok () ∧
      (pluginSmallSwarm lexicalCast construct json app).2.vehicle? =
        some ⟨pubConfig, subscribeConfigs, swarm⟩ := by
  let swarm : SmallSwarm.Config :=
    ⟨pubConfig.vehicleId, app.mavVehicle, some pubConfig, some subscribeConfigs⟩
  have ran : pluginSmallSwarm lexicalCast construct json app =
      (.ok (), ⟨app.mavVehicle, some pubConfig, some subscribeConfigs, some swarm⟩) := by
    simp only [pluginSmallSwarm, configured, assemble, constructs, makeSubscribes_all constructs, swarm]
  exact ⟨swarm, by rw [ran], by rw [ran]; rfl⟩

/-- A section without members is configured for either of its two vehicles. -/
theorem Defines.configured (defines : Defines lexicalCast json 0 leaderUrl subLeaderUrl memberUrl)
    {role : Role} (selected : roleOf json = .ok role) (documented : role.Documented 0)
    {number : Int} (numbered : json.readInt JsonKey.smallSwarmMemberNo = .ok number) :
    ∃ pubConfig subscribeConfigs,
      configure lexicalCast json = .ok (pubConfig, subscribeConfigs) ∧
      pubConfig.vehicleId = role.documentedId ∧
      subscribeConfigs = (documentedFleet 0 leaderUrl subLeaderUrl memberUrl).filter
        fun entry => entry.vehicleId ≠ role.documentedId := by
  have leaderRead : json.readString JsonKey.smallSwarmLeaderUrl = .ok leaderUrl :=
    bind_ok.mpr ⟨_, defines.leader, rfl⟩
  have subLeaderRead : json.readString JsonKey.smallSwarmSubLeaderUrl = .ok subLeaderUrl :=
    bind_ok.mpr ⟨_, defines.subLeader, rfl⟩
  have read : memberUrls json (turnsFor json) 1 = .ok [] := by
    have second := defines.noOther 2 (by omega)
    simp only [turnsFor, memberUrls, second, bind, Except.bind, Value.empty, ↓reduceIte]
    rfl
  obtain ⟨leaderPort, leaderCast⟩ := Option.isSome_iff_exists.mp defines.leaderPort
  obtain ⟨subLeaderPort, subLeaderCast⟩ := Option.isSome_iff_exists.mp defines.subLeaderPort
  have begun := selectRole_start selected leaderRead subLeaderRead
  have looped : select json = .ok (role.start leaderUrl subLeaderUrl) := by
    refine bind_ok.mpr ⟨_, begun, bind_ok.mpr ⟨number, numbered, ?_⟩⟩
    rw [memberLoop_eq, read]
    rfl
  cases role with
  | leader => exact ⟨_, _, configure_of looped rfl leaderCast, rfl, rfl⟩
  | subLeader => exact ⟨_, _, configure_of looped rfl subLeaderCast, rfl, rfl⟩
  | member number =>
    obtain ⟨least, most⟩ := documented
    omega

/-- Every vehicle is admitted under its documented identity exactly when the section
defines no member at all (and `Member No` can be read, which every role does). -/
theorem admitted_iff (lexicalCast : String → Option (BitVec 16))
    (construct : Nat → Except Exception Unit) (json : Value) (app : AppMain) (count : Nat)
    (leaderUrl subLeaderUrl : String) (memberUrl : Nat → String) (role : Role)
    (small : ZMQ.vehicleIdMemberNul + count ≤ 255)
    (defines : Defines lexicalCast json count leaderUrl subLeaderUrl memberUrl)
    (selected : roleOf json = .ok role) (documented : role.Documented count)
    (constructs : ∀ socket, construct socket = .ok ()) :
    Admitted (documentedFleet count leaderUrl subLeaderUrl memberUrl) role
        (pluginSmallSwarm lexicalCast construct json app) ↔
      count = 0 ∧ ∃ number, json.readInt JsonKey.smallSwarmMemberNo = .ok number := by
  constructor
  · rintro ⟨vehicle, success, present, published, subscribed⟩
    have ran : pluginSmallSwarm lexicalCast construct json app =
        (.ok (), (pluginSmallSwarm lexicalCast construct json app).2) := Prod.ext success rfl
    obtain ⟨other, vehicles, seatRole, url, same, deployed⟩ := pluginSmallSwarm_deployed ran
    obtain rfl : other = vehicle := Option.some.inj (same.symm.trans present)
    have seated := deployed.seated
    refine ⟨?_, seated.readable⟩
    · by_contra members
      have last := defines.last_missing small (Nat.one_le_iff_ne_zero.mpr members) seated.loaded
      by_cases own : role.documentedId = memberId count
      · exact last _ (List.mem_of_getElem? seated.own) (published.trans own)
      · have wanted : (⟨memberId count, memberUrl count⟩ : ZmqSubscribe.Config) ∈
            other.subscribes := by
          apply subscribed.mem_iff.mpr
          rw [List.mem_filter]
          refine ⟨?_, by simpa using Ne.symm own⟩
          have index := List.mem_map_of_mem (f := fun index =>
            (⟨memberId (index + 1), memberUrl (index + 1)⟩ : ZmqSubscribe.Config))
            (List.mem_range.mpr (show count - 1 < count by omega))
          rw [Nat.sub_add_cancel (by omega)] at index
          exact List.mem_cons_of_mem _ (List.mem_cons_of_mem _ index)
        rw [seated.others] at wanted
        exact last _ (List.mem_of_mem_eraseIdx wanted) rfl
  · rintro ⟨rfl, number, numbered⟩
    obtain ⟨pubConfig, subscribeConfigs, configured, published, subscribed⟩ :=
      defines.configured selected documented numbered
    obtain ⟨swarm, success, present⟩ := pluginSmallSwarm_configured constructs configured app
    exact ⟨_, success, present, published, by rw [subscribed]⟩

/-- A leader's section, with the sample's first member or with none. -/
def leaderSection (members : List (String × Value)) : Value :=
  .object ([("Leader", .bool true), ("Leader URL", .string "tcp://172.24.200.10:9872"),
    ("Sub-Leader URL", .string "tcp://172.24.200.110:9872")] ++ members)

def firstMember : List (String × Value) := [("Member 1", .string "tcp://172.24.200.111:9872")]

theorem leaderSection_lookup (members : List (String × Value)) {key : String}
    (other : key ∉ ["Leader", "Leader URL", "Sub-Leader URL"]) :
    (leaderSection members).get key = .ok ((members.lookup key).getD .null) := by
  simp only [List.mem_cons, List.not_mem_nil, or_false, not_or] at other
  obtain ⟨leader, leaderUrl, subLeaderUrl⟩ := other
  simp [leaderSection, Value.get, List.lookup_cons, beq_eq_false_iff_ne.mpr leader,
    beq_eq_false_iff_ne.mpr leaderUrl, beq_eq_false_iff_ne.mpr subLeaderUrl]

theorem leaderSection_member (members : List (String × Value)) (number : Nat) :
    (leaderSection members).get (memberKey number) =
      .ok ((members.lookup (memberKey number)).getD .null) := by
  have leader : memberKey number ≠ "Leader" := memberKey_ne (by decide) number
  have leaderUrl : memberKey number ≠ "Leader URL" := memberKey_ne (by decide) number
  have subLeaderUrl : memberKey number ≠ "Sub-Leader URL" := memberKey_ne (by decide) number
  apply leaderSection_lookup
  simp [leader, leaderUrl, subLeaderUrl]

theorem leaderSection_get {members : List (String × Value)} {number : Nat}
    (other : ∀ entry ∈ members, entry.1 ≠ memberKey number) :
    (leaderSection members).get (memberKey number) = .ok .null := by
  have missing : members.lookup (memberKey number) = none := by
    rw [List.lookup_eq_none_iff]
    intro entry member
    simpa only [bne_iff_ne] using (other entry member).symm
  rw [leaderSection_member, missing]
  rfl

theorem leaderSection_none : Defines samplePort (leaderSection []) 0
    "tcp://172.24.200.10:9872" "tcp://172.24.200.110:9872" (fun _ => "") where
  leader := rfl
  subLeader := rfl
  member := by omega
  noOther _ _ := leaderSection_get nofun
  filled := by omega
  leaderPort := rfl
  subLeaderPort := rfl
  memberPort := by omega

theorem leaderSection_one : Defines samplePort (leaderSection firstMember) 1
    "tcp://172.24.200.10:9872" "tcp://172.24.200.110:9872"
    (fun _ => "tcp://172.24.200.111:9872") where
  leader := rfl
  subLeader := rfl
  member number least most := by
    obtain rfl : number = 1 := Nat.le_antisymm most least
    rfl
  noOther number outside := by
    apply leaderSection_get
    intro entry member same
    obtain rfl := List.mem_singleton.mp member
    have one : 1 = number := memberKey_injective same
    omega
  filled := by decide
  leaderPort := rfl
  subLeaderPort := rfl
  memberPort _ _ _ := rfl

theorem admitted_none : Admitted
    (documentedFleet 0 "tcp://172.24.200.10:9872" "tcp://172.24.200.110:9872" (fun _ => "")) .leader
    (pluginSmallSwarm samplePort (fun _ => .ok ()) (leaderSection []) {}) :=
  (admitted_iff samplePort (fun _ => .ok ()) (leaderSection []) {} 0 "tcp://172.24.200.10:9872"
    "tcp://172.24.200.110:9872" (fun _ => "") .leader (by decide) leaderSection_none rfl trivial
    (fun _ => rfl)).mpr ⟨rfl, 0, rfl⟩

/-- With one member the leader subscribes to its sub-leader only. -/
theorem admitted_fails :
    ¬ ∀ (lexicalCast : String → Option (BitVec 16)) (construct : Nat → Except Exception Unit)
      (json : Value) (app : AppMain) (count : Nat) (leaderUrl subLeaderUrl : String)
      (memberUrl : Nat → String) (role : Role),
      ZMQ.vehicleIdMemberNul + count ≤ 255 →
      Defines lexicalCast json count leaderUrl subLeaderUrl memberUrl →
      roleOf json = .ok role → role.Documented count → (∀ socket, construct socket = .ok ()) →
      Admitted (documentedFleet count leaderUrl subLeaderUrl memberUrl) role
        (pluginSmallSwarm lexicalCast construct json app) := by
  intro admitted
  obtain ⟨vehicle, _, present, _, subscribed⟩ := admitted samplePort (fun _ => .ok ())
    (leaderSection firstMember) {} 1 _ _ _ .leader (by decide) leaderSection_one rfl trivial
    (fun _ => rfl)
  have alone : (pluginSmallSwarm samplePort (fun _ => .ok ())
      (leaderSection firstMember) {}).2.vehicle?.map (·.subscribes.length) = some 1 := rfl
  rw [present, Option.map_some, subscribed.length_eq] at alone
  exact absurd alone (by decide)

end VehicleRunner.App
