import VehicleRunner.App.Fleet

/-! Two vehicles configured from one section: apart from the keys that select a role
they read the same fleet, and take different seats in it. -/

namespace VehicleRunner.App

open VehicleRunner.Foundation VehicleRunner.Bundle VehicleRunner.Plugin Json

/-- The keys that select a role. -/
def roleKeys : List String :=
  [JsonKey.smallSwarmLeader, JsonKey.smallSwarmSubLeader, JsonKey.smallSwarmMemberNo]

/-- The sections differ at most in the keys that select a role. -/
def AgreeOffRoles (first second : Value) : Prop :=
  ∀ key, key ∉ roleKeys → first.get key = second.get key

theorem agreeOffRoles_append {first second common : List (String × Value)}
    (firstKeys : ∀ entry ∈ first, entry.1 ∈ roleKeys)
    (secondKeys : ∀ entry ∈ second, entry.1 ∈ roleKeys) :
    AgreeOffRoles (.object (first ++ common)) (.object (second ++ common)) := by
  intro key other
  have passed {entries : List (String × Value)} (keys : ∀ entry ∈ entries, entry.1 ∈ roleKeys) :
      entries.lookup key = none := by
    rw [List.lookup_eq_none_iff]
    intro entry member
    simp only [bne_iff_ne]
    rintro rfl
    exact other (keys entry member)
  simp only [Value.get, List.lookup_append, passed firstKeys, passed secondKeys]

theorem memberKey_not_role (number : Nat) : memberKey number ∉ roleKeys := by
  have leader : memberKey number ≠ JsonKey.smallSwarmLeader := memberKey_ne (by decide) number
  have subLeader : memberKey number ≠ JsonKey.smallSwarmSubLeader := memberKey_ne (by decide) number
  simp [roleKeys, leader, subLeader, memberKey_ne_memberNo]

theorem AgreeOffRoles.memberUrls {first second : Value} (agree : AgreeOffRoles first second)
    (turns n : Nat) : memberUrls first turns n = memberUrls second turns n := by
  induction turns generalizing n with
  | zero => rfl
  | succ turns ih => simp only [App.memberUrls, agree _ (memberKey_not_role _), ih]

/-- Both vehicles see the same fleet. -/
theorem AgreeOffRoles.fleet {first second : Value} (agree : AgreeOffRoles first second)
    {vehicles others : List ZmqSubscribe.Config} (loaded : fleet first = .ok vehicles)
    (alike : App.fleet second = .ok others) : vehicles = others := by
  obtain ⟨leaderUrl, subLeaderUrl, urls, leader, subLeader, read, rfl⟩ := fleet_ok_iff.mp loaded
  obtain ⟨leaderUrl', subLeaderUrl', urls', leader', subLeader', read', rfl⟩ := fleet_ok_iff.mp alike
  have leaderKey := agree JsonKey.smallSwarmLeaderUrl (by decide)
  have subLeaderKey := agree JsonKey.smallSwarmSubLeaderUrl (by decide)
  simp only [Value.readString, leaderKey] at leader leader'
  simp only [Value.readString, subLeaderKey] at subLeader subLeader'
  obtain rfl : leaderUrl = leaderUrl' := Except.ok.inj (leader.symm.trans leader')
  obtain rfl : subLeaderUrl = subLeaderUrl' := Except.ok.inj (subLeader.symm.trans subLeader')
  -- The two loops may be bounded differently: give each the other's turns as well.
  have extended := memberUrls_more read (turnsFor second)
  have extended' := memberUrls_more read' (turnsFor first)
  rw [agree.memberUrls, Nat.add_comm] at extended
  obtain rfl : urls = urls' := Except.ok.inj (extended.symm.trans extended')
  rfl

/-- Different roles sit on different seats. -/
theorem Role.seat_ne {first second : Role} (firstNumbered : ∀ number, first = .member number → 2 ≤ number)
    (secondNumbered : ∀ number, second = .member number → 2 ≤ number) (different : first ≠ second) :
    first.seat ≠ second.seat := by
  cases first with
  | leader =>
    cases second with
    | leader => exact absurd rfl different
    | subLeader => simp [Role.seat]
    | member number => have := secondNumbered number rfl; simp only [Role.seat]; omega
  | subLeader =>
    cases second with
    | leader => simp [Role.seat]
    | subLeader => exact absurd rfl different
    | member number => have := secondNumbered number rfl; simp only [Role.seat]; omega
  | member number =>
    have := firstNumbered number rfl
    cases second with
    | leader => simp only [Role.seat]; omega
    | subLeader => simp only [Role.seat]; omega
    | member other =>
      have := secondNumbered other rfl
      intro same
      apply different
      simp only [Role.seat] at same
      rw [show number = other by omega]

/-- Taking two seats out of a fleet without repetitions, in either order. -/
theorem seats_agree {vehicles : List ZmqSubscribe.Config} (distinct : vehicles.Nodup) {seat other : Nat}
    (different : seat ≠ other) {own peer : ZmqSubscribe.Config} (here : vehicles[seat]? = some own)
    (there : vehicles[other]? = some peer) :
    (vehicles.eraseIdx seat).count peer = 1 ∧ own ∉ vehicles.eraseIdx seat ∧
      (vehicles.eraseIdx seat).erase peer = (vehicles.eraseIdx other).erase own := by
  obtain ⟨below, rfl⟩ := List.getElem?_eq_some_iff.mp here
  obtain ⟨within, rfl⟩ := List.getElem?_eq_some_iff.mp there
  have apart : vehicles[other] ≠ vehicles[seat] := fun same =>
    different ((distinct.getElem_inj_iff.mp same).symm)
  rw [← distinct.erase_getElem seat below, ← distinct.erase_getElem other within]
  refine ⟨?_, distinct.not_mem_erase, List.erase_comm _ _⟩
  rw [List.count_erase_of_ne apart]
  exact List.count_eq_one_of_mem distinct (List.getElem_mem within)

/-- Two vehicles in different roles agree on each other and on everybody else. -/
theorem configurations_agree (lexicalCast : String → Option (BitVec 16))
    (firstConstruct secondConstruct : Nat → Except Exception Unit) (first second : Value)
    (firstApp secondApp firstFinal secondFinal : AppMain) (vehicles : List ZmqSubscribe.Config)
    (agree : AgreeOffRoles first second) (loaded : fleet first = .ok vehicles)
    (distinct : (vehicles.map ZmqSubscribe.Config.remoteUrl).Nodup)
    (different : roleOf first ≠ roleOf second)
    (firstRan : pluginSmallSwarm lexicalCast firstConstruct first firstApp = (.ok (), firstFinal))
    (secondRan :
      pluginSmallSwarm lexicalCast secondConstruct second secondApp = (.ok (), secondFinal)) :
    ∃ left right leftUrl rightUrl,
      firstFinal.vehicle? = some left ∧ secondFinal.vehicle? = some right ∧
      ownUrl first = .ok leftUrl ∧ ownUrl second = .ok rightUrl ∧
      left.subscribes.count ⟨right.publish.vehicleId, rightUrl⟩ = 1 ∧
      right.subscribes.count ⟨left.publish.vehicleId, leftUrl⟩ = 1 ∧
      ⟨left.publish.vehicleId, leftUrl⟩ ∉ left.subscribes ∧
      ⟨right.publish.vehicleId, rightUrl⟩ ∉ right.subscribes ∧
      (∃ port, lexicalCast (portText leftUrl) = some port ∧ left.publish.localUrl = bindUrl port) ∧
      (∃ port, lexicalCast (portText rightUrl) = some port ∧ right.publish.localUrl = bindUrl port) ∧
      left.swarm.vehicleId = left.publish.vehicleId ∧
      right.swarm.vehicleId = right.publish.vehicleId ∧
      left.subscribes.erase ⟨right.publish.vehicleId, rightUrl⟩ =
        right.subscribes.erase ⟨left.publish.vehicleId, leftUrl⟩ := by
  obtain ⟨left, leftFleet, leftRole, leftUrl, leftPresent, leftDeployed⟩ :=
    pluginSmallSwarm_deployed firstRan
  obtain ⟨right, rightFleet, rightRole, rightUrl, rightPresent, rightDeployed⟩ :=
    pluginSmallSwarm_deployed secondRan
  have leftSeated := leftDeployed.seated
  have rightSeated := rightDeployed.seated
  obtain rfl : vehicles = leftFleet := Except.ok.inj (loaded.symm.trans leftSeated.loaded)
  obtain rfl : vehicles = rightFleet := agree.fleet loaded rightSeated.loaded
  have seats : leftRole.seat ≠ rightRole.seat :=
    Role.seat_ne leftSeated.numbered rightSeated.numbered fun same =>
      different (by rw [leftSeated.selected, rightSeated.selected, same])
  have unique : vehicles.Nodup := distinct.of_map _
  obtain ⟨leftOnce, leftAbsent, same⟩ :=
    seats_agree unique seats leftSeated.own rightSeated.own
  obtain ⟨rightOnce, rightAbsent, _⟩ :=
    seats_agree unique seats.symm rightSeated.own leftSeated.own
  rw [← leftSeated.others] at leftOnce leftAbsent same
  rw [← rightSeated.others] at rightOnce rightAbsent same
  exact ⟨left, right, leftUrl, rightUrl, leftPresent, rightPresent, leftDeployed.ownUrl,
    rightDeployed.ownUrl, leftOnce, rightOnce, leftAbsent, rightAbsent, leftDeployed.bound,
    rightDeployed.bound, leftDeployed.swarm, rightDeployed.swarm, same⟩

/-- A section with three members, as in the sample configuration. -/
def sampleSection (role : List (String × Value)) : Value :=
  .object (role ++
    [("Leader URL", .string "tcp://172.24.200.10:9872"),
      ("Sub-Leader URL", .string "tcp://172.24.200.110:9872"),
      ("Member 1", .string "tcp://172.24.200.111:9872"),
      ("Member 2", .string "tcp://172.24.200.112:9872"),
      ("Member 3", .string "tcp://172.24.200.113:9872")])

def samplePort (text : String) : Option (BitVec 16) := if text = "9872" then some 9872 else none

/-- The leader and the second member of the sample subscribe to each other. -/
theorem configurations_agree_sample :
    ∃ leaderFinal memberFinal leader member,
      pluginSmallSwarm samplePort (fun _ => .ok ()) (sampleSection [("Leader", .bool true)]) {} =
        (.ok (), leaderFinal) ∧
      pluginSmallSwarm samplePort (fun _ => .ok ()) (sampleSection [("Member No", .integer 2)]) {} =
        (.ok (), memberFinal) ∧
      leaderFinal.vehicle? = some leader ∧ memberFinal.vehicle? = some member ∧
      leader.subscribes.count ⟨member.publish.vehicleId, "tcp://172.24.200.112:9872"⟩ = 1 ∧
      member.subscribes.count ⟨leader.publish.vehicleId, "tcp://172.24.200.10:9872"⟩ = 1 := by
  obtain ⟨leader, member, leaderUrl, memberUrl, leads, follows, leaderOwn, memberOwn, once, again, _⟩ :=
    configurations_agree samplePort (fun _ => .ok ()) (fun _ => .ok ())
      (sampleSection [("Leader", .bool true)]) (sampleSection [("Member No", .integer 2)])
      {} {} _ _ _ (agreeOffRoles_append (by decide) (by decide)) rfl (by decide) nofun rfl rfl
  cases leaderOwn
  cases memberOwn
  exact ⟨_, _, leader, member, rfl, rfl, leads, follows, once, again⟩

end VehicleRunner.App
