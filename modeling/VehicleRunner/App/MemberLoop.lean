import VehicleRunner.App.AppMain

/-! The member loop taken apart: the URLs it reads, which the keys alone decide, and
what it makes of them, which is pure. -/

namespace VehicleRunner.App

open VehicleRunner.Bundle Json

/-! ## The keys -/

theorem memberKey_injective {first second : Nat} (same : memberKey first = memberKey second) :
    first = second :=
  Nat.repr_inj.mp ((String.append_right_inj _).mp same)

theorem memberKey_ne {key : String} (other : key.toList.head? ≠ some 'M') (number : Nat) :
    memberKey number ≠ key := by
  rintro rfl
  apply other
  simp [memberKey, JsonKey.smallSwarmMemberPartial, String.toList_append]

/-- A number is written in digits, so no member's key is the key of the number. -/
theorem memberKey_ne_memberNo (number : Nat) : memberKey number ≠ JsonKey.smallSwarmMemberNo := by
  intro same
  have digits : number.repr = "No" :=
    (String.append_right_inj JsonKey.smallSwarmMemberPartial).mp same
  have letter : 'N' ∈ Nat.toDigits 10 number := by
    rw [← Nat.toList_repr, digits]
    decide
  have digit : 'N'.isDigit = true := Nat.isDigit_of_mem_toDigits (by decide) (by decide) letter
  exact absurd digit (by decide)

/-! ## The URLs read -/

/-- The URLs of the members the loop finds from index `n`. -/
def memberUrls (json : Value) : Nat → Nat → Except Exception (List String)
  | 0, _ => .error .unfinished
  | turns + 1, n => do
    let member ← json.get (memberKey (n + 1))
    if member.empty then return []
    let url ← member.asString
    let urls ← memberUrls json turns (n + 1)
    return url :: urls

def placeAll (vehicleId : Int) : Nat → List String → Selection → Selection
  | _, [], selection => selection
  | n, url :: urls, selection => placeAll vehicleId (n + 1) urls (place vehicleId n url selection)

theorem memberLoop_eq (json : Value) (vehicleId : Int) (turns n : Nat) (selection : Selection) :
    memberLoop json vehicleId turns n selection =
      (memberUrls json turns n).map fun urls => placeAll vehicleId n urls selection := by
  induction turns generalizing n selection with
  | zero => rfl
  | succ turns ih =>
    simp only [memberLoop, memberUrls, bind, Except.bind, ih]
    cases json.get (memberKey (n + 1)) with
    | error raised => rfl
    | ok member =>
      cases filled : member.empty with
      | true => simp [pure, Except.pure, Except.map, filled, placeAll]
      | false =>
        cases read : member.asString with
        | error raised => simp [Except.map, filled, read]
        | ok url =>
          cases rest : memberUrls json turns (n + 1) with
          | error raised => simp [Except.map, filled, read]
          | ok urls => simp [pure, Except.pure, Except.map, filled, read, placeAll]

/-- Everything a successful turn of the loop can be. -/
theorem memberUrls_cases {json : Value} {turns n : Nat} {urls : List String}
    (loaded : memberUrls json (turns + 1) n = .ok urls) :
    ∃ member, json.get (memberKey (n + 1)) = .ok member ∧
      ((member.empty = true ∧ urls = []) ∨
        ∃ url rest, member.empty = false ∧ member.asString = .ok url ∧
          memberUrls json turns (n + 1) = .ok rest ∧ urls = url :: rest) := by
  obtain ⟨member, found, turn⟩ := bind_ok.mp loaded
  refine ⟨member, found, ?_⟩
  cases filled : member.empty with
  | true =>
    simp only [filled, ↓reduceIte, pure, Except.pure, Except.ok.injEq] at turn
    exact .inl ⟨rfl, turn.symm⟩
  | false =>
    simp only [filled, Bool.false_eq_true, ↓reduceIte] at turn
    obtain ⟨url, read, turn⟩ := bind_ok.mp turn
    obtain ⟨rest, later, same⟩ := bind_ok.mp turn
    exact .inr ⟨url, rest, rfl, read, later, (Except.ok.inj same).symm⟩

/-- More turns than needed change nothing. -/
theorem memberUrls_more {json : Value} {turns n : Nat} {urls : List String}
    (loaded : memberUrls json turns n = .ok urls) (extra : Nat) :
    memberUrls json (turns + extra) n = .ok urls := by
  induction turns generalizing n urls with
  | zero => cases loaded
  | succ turns ih =>
    obtain ⟨member, found, turn⟩ := memberUrls_cases loaded
    rw [Nat.add_right_comm]
    simp only [memberUrls, found, bind, Except.bind]
    rcases turn with ⟨filled, rfl⟩ | ⟨url, rest, filled, read, later, rfl⟩
    · simp only [filled, ↓reduceIte]
      rfl
    · simp only [filled, Bool.false_eq_true, ↓reduceIte, read, ih later]
      rfl

/-- A loop that ran out of turns found a member in every one of them. -/
theorem memberUrls_unfinished {json : Value} {turns n : Nat}
    (stuck : memberUrls json turns n = .error .unfinished) :
    ∀ turn < turns, memberKey (n + 1 + turn) ∈ json.keys := by
  induction turns generalizing n with
  | zero => intro turn below; exact absurd below (Nat.not_lt_zero _)
  | succ turns ih =>
    simp only [memberUrls, bind, Except.bind] at stuck
    cases found : json.get (memberKey (n + 1)) with
    | error raised =>
      simp only [found, Value.get_error found] at stuck
      cases stuck
    | ok member =>
      cases filled : member.empty with
      | true =>
        simp only [found, filled, ↓reduceIte] at stuck
        cases stuck
      | false =>
        intro turn below
        cases turn with
        | zero => exact Value.mem_keys found filled
        | succ turn =>
          have later : memberUrls json turns (n + 1) = .error .unfinished := by
            simp only [found, filled, Bool.false_eq_true, ↓reduceIte] at stuck
            cases read : member.asString with
            | error raised =>
              simp only [read, Value.asString_error read] at stuck
              cases stuck
            | ok url =>
              simp only [read] at stuck
              cases rest : memberUrls json turns (n + 1) with
              | error raised => simpa only [rest] using stuck
              | ok urls =>
                simp only [rest] at stuck
                cases stuck
          have present := ih later turn (Nat.lt_of_succ_lt_succ below)
          rwa [show n + 1 + (turn + 1) = n + 1 + 1 + turn by omega]

/-- The loop always stops by itself. -/
theorem memberLoop_finishes (json : Value) (vehicleId : Int) (n : Nat) (selection : Selection) :
    memberLoop json vehicleId (turnsFor json) n selection ≠ .error .unfinished := by
  intro stuck
  have read : memberUrls json (turnsFor json) n = .error .unfinished := by
    rw [memberLoop_eq] at stuck
    cases loaded : memberUrls json (turnsFor json) n with
    | error raised =>
      simp only [loaded, Except.map, Except.error.injEq] at stuck
      rw [stuck]
    | ok urls =>
      simp only [loaded, Except.map] at stuck
      cases stuck
  have present := memberUrls_unfinished read
  have distinct : ((List.range (turnsFor json)).map fun turn => memberKey (n + 1 + turn)).Nodup :=
    List.nodup_range.map fun first second same => Nat.add_left_cancel (memberKey_injective same)
  have within : ((List.range (turnsFor json)).map fun turn => memberKey (n + 1 + turn)) ⊆ json.keys := by
    intro key member
    obtain ⟨turn, below, rfl⟩ := List.mem_map.mp member
    exact present turn (List.mem_range.mp below)
  have counted := (distinct.subperm within).length_le
  simp only [List.length_map, List.length_range, turnsFor] at counted
  exact absurd counted (Nat.not_succ_le_self _)

/-- What was read for the member at each index. -/
theorem memberUrls_read {json : Value} {turns n : Nat} {urls : List String}
    (loaded : memberUrls json turns n = .ok urls) {index : Nat} {url : String}
    (found : urls[index]? = some url) :
    json.readString (memberKey (n + 1 + index)) = .ok url := by
  induction turns generalizing n urls index with
  | zero => cases loaded
  | succ turns ih =>
    obtain ⟨member, looked, turn⟩ := memberUrls_cases loaded
    rcases turn with ⟨_, rfl⟩ | ⟨head, rest, _, read, later, rfl⟩
    · cases found
    · cases index with
      | zero =>
        obtain rfl : head = url := by simpa using found
        exact bind_ok.mpr ⟨member, looked, read⟩
      | succ index =>
        have next := ih later (by simpa using found)
        rwa [show n + 1 + (index + 1) = n + 1 + 1 + index by omega]

/-- The loop reads on while the keys hold something, and stops at one that does not. -/
theorem memberUrls_extent {json : Value} {turns n : Nat} {urls : List String}
    (loaded : memberUrls json turns n = .ok urls) :
    (∀ index < urls.length, ∃ member,
      json.get (memberKey (n + 1 + index)) = .ok member ∧ member.empty = false) ∧
    ∃ member, json.get (memberKey (n + 1 + urls.length)) = .ok member ∧ member.empty = true := by
  induction turns generalizing n urls with
  | zero => cases loaded
  | succ turns ih =>
    obtain ⟨member, looked, turn⟩ := memberUrls_cases loaded
    rcases turn with ⟨filled, rfl⟩ | ⟨url, rest, filled, _, later, rfl⟩
    · exact ⟨fun index below => absurd below (Nat.not_lt_zero index), member, looked, filled⟩
    · obtain ⟨through, stop⟩ := ih later
      refine ⟨fun index below => ?_, ?_⟩
      · cases index with
        | zero => exact ⟨member, looked, filled⟩
        | succ index =>
          have next := through index (Nat.lt_of_succ_lt_succ below)
          rwa [show n + 1 + 1 + index = n + 1 + (index + 1) by omega] at next
      · rwa [show n + 1 + 1 + rest.length = n + 1 + (url :: rest).length by
          simp only [List.length_cons]; omega] at stop

/-! ## What the loop makes of the URLs -/

/-- The members' ids and URLs, in the order of the loop. -/
def memberEntries : Nat → List String → List ZmqSubscribe.Config
  | _, [] => []
  | n, url :: urls => ⟨memberId n, url⟩ :: memberEntries (n + 1) urls

theorem memberEntries_length (n : Nat) (urls : List String) :
    (memberEntries n urls).length = urls.length := by
  induction urls generalizing n with
  | nil => rfl
  | cons url urls ih => simp [memberEntries, ih]

/-- Once a publisher is chosen every member is subscribed to. -/
theorem placeAll_chosen (vehicleId : Int) (n : Nat) (urls : List String)
    (pubConfig : ZmqPublish.Config) (subscribeConfigs : List ZmqSubscribe.Config) :
    placeAll vehicleId n urls ⟨some pubConfig, subscribeConfigs⟩ =
      ⟨some pubConfig, subscribeConfigs ++ memberEntries n urls⟩ := by
  induction urls generalizing n subscribeConfigs with
  | nil => simp [placeAll, memberEntries]
  | cons url urls ih => simp [placeAll, place, memberEntries, ih]

/-- Until then the member with the configured number becomes the publisher, and
the others are subscribed to. -/
theorem placeAll_open {vehicleId : Int} {n : Nat} {urls : List String}
    {subscribeConfigs : List ZmqSubscribe.Config} {pubConfig : ZmqPublish.Config}
    (chosen : (placeAll vehicleId n urls ⟨none, subscribeConfigs⟩).publishOption = some pubConfig) :
    ∃ index, vehicleId = (n + 1 + index : Nat) ∧
      (memberEntries n urls)[index]? = some ⟨pubConfig.vehicleId, pubConfig.localUrl⟩ ∧
      placeAll vehicleId n urls ⟨none, subscribeConfigs⟩ =
        ⟨some pubConfig, subscribeConfigs ++ (memberEntries n urls).eraseIdx index⟩ := by
  induction urls generalizing n subscribeConfigs with
  | nil => cases chosen
  | cons url urls ih =>
    by_cases own : vehicleId = (n : Int) + 1
    · have placed : place vehicleId n url ⟨none, subscribeConfigs⟩ =
          ⟨some ⟨memberId n, url⟩, subscribeConfigs⟩ := by
        simp [place, own]
      simp only [placeAll, placed, placeAll_chosen, Option.some.injEq] at chosen ⊢
      subst chosen
      exact ⟨0, by omega, rfl, rfl⟩
    · have placed : place vehicleId n url ⟨none, subscribeConfigs⟩ =
          ⟨none, subscribeConfigs ++ [⟨memberId n, url⟩]⟩ := by
        simp [place, own]
      simp only [placeAll, placed] at chosen ⊢
      obtain ⟨index, number, found, whole⟩ := ih chosen
      refine ⟨index + 1, by omega, ?_, ?_⟩
      · simpa only [memberEntries, List.getElem?_cons_succ] using found
      · simp only [whole, memberEntries, List.eraseIdx_cons_succ, List.append_assoc,
          List.singleton_append]

theorem memberId_toNat {n : Nat} (small : 10 + n ≤ 255) : (memberId n).toNat = 10 + n := by
  simp only [memberId, ZMQ.vehicleIdMemberNul, BitVec.toNat_ofNat]
  omega

/-- While the ids fit a byte they are distinct and count up. -/
theorem memberEntries_ids (n : Nat) (urls : List String) (small : 10 + n + urls.length ≤ 256) :
    ((memberEntries n urls).map ZmqSubscribe.Config.vehicleId).Nodup ∧
      ∀ entry ∈ memberEntries n urls, 10 + n ≤ entry.vehicleId.toNat := by
  induction urls generalizing n with
  | nil => exact ⟨.nil, nofun⟩
  | cons url urls ih =>
    simp only [List.length_cons] at small
    obtain ⟨distinct, above⟩ := ih (n + 1) (by omega)
    have first : (memberId n).toNat = 10 + n := memberId_toNat (by omega)
    refine ⟨List.nodup_cons.mpr ⟨?_, distinct⟩, ?_⟩
    · intro repeated
      obtain ⟨entry, member, same⟩ := List.mem_map.mp repeated
      have later := above entry member
      rw [same, first] at later
      omega
    · intro entry member
      rcases List.mem_cons.mp member with rfl | member
      · exact Nat.le_of_eq first.symm
      · exact Nat.le_of_succ_le (above entry member)

theorem memberEntries_getElem? (n : Nat) (urls : List String) (index : Nat) :
    (memberEntries n urls)[index]? = urls[index]?.map fun url => ⟨memberId (n + index), url⟩ := by
  induction urls generalizing n index with
  | nil => rfl
  | cons url urls ih =>
    cases index with
    | zero => rfl
    | succ index =>
      simp only [memberEntries, List.getElem?_cons_succ, ih]
      rw [show n + 1 + index = n + (index + 1) by omega]

end VehicleRunner.App
