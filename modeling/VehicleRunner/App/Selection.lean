import VehicleRunner.App.Fleet

/-! Which sections configure a vehicle, and which leave it without a publisher, told
from the fleet they load and the role they select. -/

namespace VehicleRunner.App

open VehicleRunner.Foundation VehicleRunner.Misc VehicleRunner.Bundle VehicleRunner.Plugin Json

/-- The section selects a member number that none of the members loaded has. -/
def Unseated (json : Value) : Prop :=
  ∃ vehicles number, fleet json = .ok vehicles ∧ roleOf json = .ok (.member number) ∧
    ¬ (2 ≤ number ∧ number < vehicles.length)

/-- The section loads these vehicles, and the seat it selects has a URL with a port. -/
def Usable (lexicalCast : String → Option (BitVec 16)) (json : Value)
    (vehicles : List ZmqSubscribe.Config) : Prop :=
  fleet json = .ok vehicles ∧ ∃ role number own port, roleOf json = .ok role ∧
    json.readInt JsonKey.smallSwarmMemberNo = .ok number ∧
    (∀ number, role = .member number → 2 ≤ number) ∧
    vehicles[role.seat]? = some own ∧ lexicalCast (portText own.remoteUrl) = some port

/-! ## What can be raised -/

/-- Nothing but a conversion error can come out. -/
def Logical {Value : Type} (computation : Except Exception Value) : Prop :=
  ∀ raised, computation = .error raised → raised = .logicError

theorem Logical.ok {Value : Type} (value : Value) : Logical (.ok value) := nofun

theorem Logical.bind {Value Other : Type} {first : Except Exception Value}
    {rest : Value → Except Exception Other} (logical : Logical first)
    (others : ∀ value, Logical (rest value)) : Logical (first >>= rest) := by
  cases first with
  | error other =>
    intro raised same
    cases same
    exact logical _ rfl
  | ok value => exact others value

theorem asBool_logical (value : Value) : Logical value.asBool := by
  intro raised failed
  cases value with
  | null => cases failed
  | bool value => cases failed
  | integer value => cases failed
  | real value => cases failed
  | _ => exact (Except.error.inj failed).symm

theorem asInt_logical (value : Value) : Logical value.asInt := by
  intro raised failed
  cases value with
  | integer value =>
    by_cases inside : -2 ^ 31 ≤ value ∧ value < 2 ^ 31
    · rw [Value.asInt, if_pos inside] at failed
      cases failed
    · rw [Value.asInt, if_neg inside] at failed
      exact (Except.error.inj failed).symm
  | real value =>
    cases truncated : value.int with
    | some number => simp [Value.asInt, truncated] at failed
    | none => simpa [Value.asInt, truncated, eq_comm] using failed
  | null => cases failed
  | bool value => cases failed
  | _ => exact (Except.error.inj failed).symm

theorem get_logical (json : Value) (key : String) : Logical (json.get key) :=
  fun _ failed => Value.get_error failed

theorem readBool_logical (json : Value) (key : String) : Logical (json.readBool key) :=
  (get_logical json key).bind asBool_logical

theorem readString_logical (json : Value) (key : String) : Logical (json.readString key) :=
  (get_logical json key).bind fun _ _ failed => Value.asString_error failed

theorem readInt_logical (json : Value) (key : String) : Logical (json.readInt key) :=
  (get_logical json key).bind asInt_logical

theorem selectRole_logical (json : Value) : Logical (selectRole json) := by
  refine (readBool_logical json _).bind fun leads => ?_
  cases leads with
  | true =>
    exact (readString_logical json _).bind fun _ => (readString_logical json _).bind fun _ => .ok _
  | false =>
    refine (readBool_logical json _).bind fun seconds => ?_
    cases seconds with
    | true =>
      exact (readString_logical json _).bind fun _ => (readString_logical json _).bind fun _ => .ok _
    | false =>
      exact (readString_logical json _).bind fun _ => (readString_logical json _).bind fun _ => .ok _

/-- The member loop raises conversion errors only, apart from the bound on its turns. -/
theorem memberLoop_error {json : Value} {vehicleId : Int} {turns n : Nat} {selection : Selection}
    {raised : Exception} (failed : memberLoop json vehicleId turns n selection = .error raised) :
    raised = .logicError ∨ raised = .unfinished := by
  induction turns generalizing n selection with
  | zero => exact .inr (Except.error.inj failed).symm
  | succ turns ih =>
    simp only [memberLoop, bind, Except.bind] at failed
    cases found : json.get (memberKey (n + 1)) with
    | error other =>
      simp only [found, Except.error.injEq] at failed
      exact .inl (failed ▸ Value.get_error found)
    | ok member =>
      cases filled : member.empty with
      | true =>
        simp only [found, filled, ↓reduceIte] at failed
        cases failed
      | false =>
        simp only [found, filled, Bool.false_eq_true, ↓reduceIte] at failed
        cases read : member.asString with
        | error other =>
          simp only [read, Except.error.injEq] at failed
          exact .inl (failed ▸ Value.asString_error read)
        | ok url =>
          simp only [read] at failed
          exact ih failed

theorem select_logical (json : Value) : Logical (select json) := by
  refine (selectRole_logical json).bind fun start => (readInt_logical json _).bind fun number => ?_
  intro raised failed
  rcases memberLoop_error failed with logical | stuck
  · exact logical
  · rw [stuck] at failed
    exact absurd failed (memberLoop_finishes json number 1 start)

/-! ## What is selected -/

/-- What the branches on the role flags begin the member loop with. -/
def Role.start (leaderUrl subLeaderUrl : String) : Role → Selection
  | .leader => ⟨some ⟨ZMQ.vehicleIdLeader, leaderUrl⟩, [⟨ZMQ.vehicleIdSubLeader, subLeaderUrl⟩]⟩
  | .subLeader => ⟨some ⟨ZMQ.vehicleIdSubLeader, subLeaderUrl⟩, [⟨ZMQ.vehicleIdLeader, leaderUrl⟩]⟩
  | .member _ => ⟨none, [⟨ZMQ.vehicleIdLeader, leaderUrl⟩, ⟨ZMQ.vehicleIdSubLeader, subLeaderUrl⟩]⟩

theorem selectRole_start {json : Value} {role : Role} {leaderUrl subLeaderUrl : String}
    (selected : roleOf json = .ok role)
    (leaderRead : json.readString JsonKey.smallSwarmLeaderUrl = .ok leaderUrl)
    (subLeaderRead : json.readString JsonKey.smallSwarmSubLeaderUrl = .ok subLeaderUrl) :
    selectRole json = .ok (role.start leaderUrl subLeaderUrl) := by
  obtain ⟨leads, follows⟩ := roleOf_flags selected
  cases role with
  | leader =>
    exact bind_ok.mpr ⟨true, leads, bind_ok.mpr ⟨leaderUrl, leaderRead,
      bind_ok.mpr ⟨subLeaderUrl, subLeaderRead, rfl⟩⟩⟩
  | subLeader =>
    exact bind_ok.mpr ⟨false, leads, bind_ok.mpr ⟨true, follows (by simp), bind_ok.mpr
      ⟨subLeaderUrl, subLeaderRead, bind_ok.mpr ⟨leaderUrl, leaderRead, rfl⟩⟩⟩⟩
  | member number =>
    exact bind_ok.mpr ⟨false, leads, bind_ok.mpr ⟨false, follows (by simp), bind_ok.mpr
      ⟨leaderUrl, leaderRead, bind_ok.mpr ⟨subLeaderUrl, subLeaderRead, rfl⟩⟩⟩⟩

/-- A member publishes exactly if its number is that of a member loaded. -/
theorem placeAll_chooses (vehicleId : Int) (n : Nat) (urls : List String)
    (subscribeConfigs : List ZmqSubscribe.Config) :
    (placeAll vehicleId n urls ⟨none, subscribeConfigs⟩).publishOption.isSome = true ↔
      (n : Int) + 1 ≤ vehicleId ∧ vehicleId < n + 1 + urls.length := by
  induction urls generalizing n subscribeConfigs with
  | nil =>
    simp only [placeAll, Option.isSome_none, Bool.false_eq_true, List.length_nil, false_iff]
    omega
  | cons url urls ih =>
    simp only [List.length_cons]
    by_cases own : vehicleId = (n : Int) + 1
    · simp only [placeAll, place, own, Option.isNone_none, and_self, ↓reduceIte, placeAll_chosen,
        Option.isSome_some, true_iff]
      omega
    · simp only [placeAll, place, own, and_false, ↓reduceIte, ih]
      omega

/-- With a fleet, a role and a number, the selection is that of the loop. -/
theorem select_placed {json : Value} {vehicles : List ZmqSubscribe.Config} {role : Role}
    {number : Int} (loaded : fleet json = .ok vehicles) (selected : roleOf json = .ok role)
    (readable : json.readInt JsonKey.smallSwarmMemberNo = .ok number) :
    ∃ leaderUrl subLeaderUrl urls, vehicles.length = urls.length + 2 ∧
      select json = .ok (placeAll number 1 urls (role.start leaderUrl subLeaderUrl)) := by
  obtain ⟨leaderUrl, subLeaderUrl, urls, leaderRead, subLeaderRead, read, rfl⟩ := fleet_ok_iff.mp loaded
  refine ⟨leaderUrl, subLeaderUrl, urls, by simp [memberEntries_length], ?_⟩
  refine bind_ok.mpr ⟨_, selectRole_start selected leaderRead subLeaderRead,
    bind_ok.mpr ⟨number, readable, ?_⟩⟩
  rw [memberLoop_eq, read]
  rfl

theorem roleOf_member {json : Value} {number : Int} (selected : roleOf json = .ok (.member number)) :
    json.readInt JsonKey.smallSwarmMemberNo = .ok number := by
  obtain ⟨leads, leader, selected⟩ := bind_ok.mp selected
  cases leads with
  | true => cases selected
  | false =>
    simp only [Bool.false_eq_true, ↓reduceIte] at selected
    obtain ⟨seconds, _, selected⟩ := bind_ok.mp selected
    cases seconds with
    | true => cases selected
    | false =>
      simp only [Bool.false_eq_true, ↓reduceIte] at selected
      obtain ⟨found, readable, selected⟩ := bind_ok.mp selected
      cases selected
      exact readable

/-- A section that selects anything loads a fleet and a role in it. -/
theorem select_loaded {json : Value} {selection : Selection} (selected : select json = .ok selection) :
    ∃ vehicles role number, fleet json = .ok vehicles ∧ roleOf json = .ok role ∧
      json.readInt JsonKey.smallSwarmMemberNo = .ok number := by
  obtain ⟨start, begun, selected⟩ := bind_ok.mp selected
  obtain ⟨number, readable, looped⟩ := bind_ok.mp selected
  obtain ⟨leaderUrl, subLeaderUrl, leaderRead, subLeaderRead, branch⟩ := selectRole_cases begun
  have loaded : ∃ vehicles, fleet json = .ok vehicles := by
    rw [memberLoop_eq] at looped
    cases read : memberUrls json (turnsFor json) 1 with
    | error raised => rw [read] at looped; cases looped
    | ok urls =>
      exact ⟨_, fleet_ok_iff.mpr ⟨leaderUrl, subLeaderUrl, urls, leaderRead, subLeaderRead, read, rfl⟩⟩
  obtain ⟨vehicles, loaded⟩ := loaded
  rcases branch with ⟨role, _⟩ | ⟨role, _⟩ | ⟨role, _⟩
  · exact ⟨vehicles, .leader, number, loaded, role, readable⟩
  · exact ⟨vehicles, .subLeader, number, loaded, role, readable⟩
  · exact ⟨vehicles, .member number, number, loaded, role number readable, readable⟩

/-- The selection has no publisher exactly for a member that was not loaded. -/
theorem unseated_iff (json : Value) :
    Unseated json ↔ ∃ selection, select json = .ok selection ∧ selection.publishOption = none := by
  constructor
  · rintro ⟨vehicles, number, loaded, selected, outside⟩
    obtain ⟨_, _, urls, size, placed⟩ := select_placed loaded selected (roleOf_member selected)
    refine ⟨_, placed, ?_⟩
    rw [← Option.not_isSome_iff_eq_none, Role.start, placeAll_chooses]
    omega
  · rintro ⟨selection, selected, unchosen⟩
    obtain ⟨vehicles, role, number, loaded, selectedRole, readable⟩ := select_loaded selected
    obtain ⟨_, _, urls, size, placed⟩ := select_placed loaded selectedRole readable
    obtain rfl := Except.ok.inj (selected.symm.trans placed)
    cases role with
    | leader =>
      rw [Role.start, placeAll_chosen] at unchosen
      cases unchosen
    | subLeader =>
      rw [Role.start, placeAll_chosen] at unchosen
      cases unchosen
    | member own =>
      obtain rfl : own = number :=
        Except.ok.inj ((roleOf_member selectedRole).symm.trans readable)
      refine ⟨vehicles, own, loaded, selectedRole, ?_⟩
      rw [← Option.not_isSome_iff_eq_none, Role.start, placeAll_chooses] at unchosen
      omega

/-! ## What is configured -/

variable {lexicalCast : String → Option (BitVec 16)}

/-- A section configures a vehicle exactly if it is usable, with a subscriber for each
of the other vehicles. -/
theorem configure_usable {json : Value} {pubConfig : ZmqPublish.Config}
    {subscribeConfigs : List ZmqSubscribe.Config}
    (configured : configure lexicalCast json = .ok (pubConfig, subscribeConfigs)) :
    ∃ vehicles, Usable lexicalCast json vehicles ∧ vehicles.length = subscribeConfigs.length + 1 := by
  obtain ⟨selection, own, port, selected, chosen, cast, rfl, rfl⟩ := configure_ok configured
  obtain ⟨vehicles, role, seated⟩ := select_seated selected chosen
  obtain ⟨number, readable⟩ := seated.readable
  refine ⟨vehicles, ⟨seated.loaded, role, number, _, port, seated.selected, readable,
    seated.numbered, seated.own, cast⟩, ?_⟩
  have inside := (List.getElem?_eq_some_iff.mp seated.own).1
  rw [seated.others, List.length_eraseIdx_of_lt inside]
  omega

theorem Usable.configures {json : Value} {vehicles : List ZmqSubscribe.Config}
    (usable : Usable lexicalCast json vehicles) :
    ∃ pubConfig subscribeConfigs, configure lexicalCast json = .ok (pubConfig, subscribeConfigs) ∧
      vehicles.length = subscribeConfigs.length + 1 := by
  obtain ⟨loaded, role, number, own, port, selectedRole, readable, numbered, seat, cast⟩ := usable
  obtain ⟨selection, selected⟩ : ∃ selection, select json = .ok selection := by
    obtain ⟨_, _, _, _, selected⟩ := select_placed loaded selectedRole readable
    exact ⟨_, selected⟩
  have chosen : ∃ pubConfig, selection.publishOption = some pubConfig := by
    by_contra unchosen
    have unseated := (unseated_iff json).mpr
      ⟨_, selected, Option.eq_none_iff_forall_ne_some.mpr fun config same => unchosen ⟨config, same⟩⟩
    obtain ⟨others, outside, alike, same, wrong⟩ := unseated
    obtain rfl := Except.ok.inj (loaded.symm.trans alike)
    obtain rfl := Except.ok.inj (selectedRole.symm.trans same)
    have least := numbered outside rfl
    have inside := (List.getElem?_eq_some_iff.mp seat).1
    simp only [Role.seat] at inside
    omega
  obtain ⟨pubConfig, chosen⟩ := chosen
  obtain ⟨others, otherRole, seated⟩ := select_seated selected chosen
  obtain rfl := Except.ok.inj (loaded.symm.trans seated.loaded)
  obtain rfl := Except.ok.inj (selectedRole.symm.trans seated.selected)
  obtain rfl := Option.some.inj (seat.symm.trans seated.own)
  have configured := configure_of selected chosen cast
  obtain ⟨alike, whole, size⟩ := configure_usable configured
  obtain rfl := Except.ok.inj (loaded.symm.trans whole.1)
  exact ⟨_, _, configured, size⟩

variable (lexicalCast) in
/-- Nothing but a missing publisher makes the configuration throw a code. -/
theorem configure_thrown_iff (json : Value) (code : Int) :
    configure lexicalCast json = .error (.thrown code) ↔ code = -EBADR ∧ Unseated json := by
  rw [unseated_iff]
  cases selected : select json with
  | error raised =>
    have logical := select_logical json raised selected
    simp [configure, selected, logical, bind, Except.bind]
  | ok selection =>
    cases chosen : selection.publishOption with
    | none => simp [configure, selected, chosen, bind, Except.bind, throw, throwThe,
        MonadExceptOf.throw, eq_comm]
    | some own =>
      cases cast : lexicalCast (portText own.localUrl) with
      | none => simp [configure, selected, chosen, cast, bind, Except.bind, throw, throwThe,
          MonadExceptOf.throw]
      | some port => simp [configure, selected, chosen, cast, bind, Except.bind, pure, Except.pure]

end VehicleRunner.App
