import VehicleRunner.App.Selection
import VehicleRunner.App.Admission
import VehicleRunner.Swarm.Protocol

/-! From configuration files to a swarm: sections that load one fleet and take different
usable seats in it always come up as a deployment, and as a complete one. -/

namespace VehicleRunner.Swarm

open VehicleRunner.Foundation VehicleRunner.Bundle VehicleRunner.Plugin VehicleRunner.App

variable {ι : Type} {lexicalCast : String → Option (BitVec 16)}

/-- A usable section configures its vehicle whatever the program held before. -/
theorem usable_runs {construct : Nat → Except Exception Unit} (constructs : ∀ socket, construct socket = .ok ())
    {json : Json.Value} {vehicles : List ZmqSubscribe.Config} (usable : Usable lexicalCast json vehicles)
    (before : AppMain) :
    ∃ after vehicle, pluginSmallSwarm lexicalCast construct json before = (.ok (), after) ∧
      after.vehicle? = some vehicle := by
  obtain ⟨pubConfig, subscribeConfigs, configured, _⟩ := usable.configures
  obtain ⟨swarm, success, present⟩ := pluginSmallSwarm_configured constructs configured before
  exact ⟨_, _, Prod.ext success rfl, present⟩

/-- The member loop of a section reads two vehicles fewer than the fleet has. -/
theorem fleet_members {json : Json.Value} {vehicles : List ZmqSubscribe.Config}
    (loaded : fleet json = .ok vehicles) {urls : List String}
    (read : memberUrls json (turnsFor json) 1 = .ok urls) : vehicles.length = urls.length + 2 := by
  obtain ⟨_, _, others, _, _, same, rfl⟩ := fleet_ok_iff.mp loaded
  obtain rfl : urls = others := Except.ok.inj (read.symm.trans same)
  simp [memberEntries_length]

/-- Taking one seat out of a fleet takes out the vehicles of its id. -/
theorem eraseIdx_filter {vehicles : List ZmqSubscribe.Config}
    (distinct : (vehicles.map ZmqSubscribe.Config.vehicleId).Nodup) {seat : Nat}
    {own : ZmqSubscribe.Config} (seated : vehicles[seat]? = some own) :
    vehicles.eraseIdx seat = vehicles.filter fun config => config.vehicleId ≠ own.vehicleId := by
  obtain ⟨inside, rfl⟩ := List.getElem?_eq_some_iff.mp seated
  have unique : vehicles.Nodup := distinct.of_map _
  rw [← unique.erase_getElem seat inside, unique.erase_eq_filter]
  apply List.filter_congr
  intro config member
  have only : config.vehicleId = vehicles[seat].vehicleId ↔ config = vehicles[seat] :=
    ⟨List.inj_on_of_nodup_map distinct member (List.getElem_mem inside), congrArg _⟩
  simp [bne, only, beq_eq_decide]

/-- Vehicles whose sections agree off the roles, load the same fleet of at most 247 and take
different usable seats in it form a swarm where every socket can be constructed: with their
own parser and sockets every one comes up, publishes as a seat of the fleet and subscribes to
all the other seats, each once, and not to its own. -/
theorem swarm_forms (lexicalCast : String → Option (BitVec 16))
    (construct : ι → Nat → Except Exception Unit) (json : ι → Json.Value) (before : ι → AppMain)
    (vehicles : List ZmqSubscribe.Config)
    (constructs : ∀ vehicle socket, construct vehicle socket = .ok ())
    (agree : ∀ first second, AgreeOffRoles (json first) (json second))
    (usable : ∀ vehicle, Usable lexicalCast (json vehicle) vehicles)
    (roles : ∀ first second, first ≠ second → roleOf (json first) ≠ roleOf (json second))
    (few : vehicles.length ≤ 247) :
    ∃ deployment : Deployment ι, deployment.lexicalCast = lexicalCast ∧ deployment.construct = construct ∧
      deployment.json = json ∧ deployment.before = before ∧
      ∀ vehicle, ⟨(deployment.vehicle vehicle).publish.vehicleId, deployment.url vehicle⟩ ∈ vehicles ∧
        (deployment.vehicle vehicle).subscribes = vehicles.filter fun config =>
          config.vehicleId ≠ (deployment.vehicle vehicle).publish.vehicleId := by
  have loaded (vehicle : ι) : fleet (json vehicle) = .ok vehicles := (usable vehicle).1
  have short (vehicle : ι) (urls : List String)
      (read : memberUrls (json vehicle) (turnsFor (json vehicle)) 1 = .ok urls) : urls.length ≤ 245 := by
    have size := fleet_members (loaded vehicle) read
    omega
  choose after vehicle ran present using fun vehicle =>
    usable_runs (constructs vehicle) (usable vehicle) (before vehicle)
  have deployed (index : ι) : ∃ role url,
      Seated (json index) vehicles role ⟨(vehicle index).publish.vehicleId, url⟩ (vehicle index).subscribes ∧
      ownUrl (json index) = .ok url := by
    obtain ⟨found, others, role, url, same, deployed⟩ := pluginSmallSwarm_deployed (ran index)
    obtain rfl : found = vehicle index := Option.some.inj (same.symm.trans (present index))
    obtain rfl : vehicles = others := Except.ok.inj ((loaded index).symm.trans deployed.seated.loaded)
    exact ⟨role, url, deployed.seated, deployed.ownUrl⟩
  choose role url seated own using deployed
  refine ⟨⟨lexicalCast, construct, json, before, after, vehicle, url, agree, short, roles, ran,
    present, own⟩, rfl, rfl, rfl, rfl, ?_⟩
  intro index
  refine ⟨List.mem_of_getElem? (seated index).own, ?_⟩
  have distinct := fleet_ids (loaded index) (short index)
  exact (seated index).others.trans (eraseIdx_filter distinct (seated index).own)

/-- The leader and the second member of the sample are a swarm. -/
theorem swarm_forms_sample :
    ∃ deployment : Deployment Bool, deployment.lexicalCast = samplePort ∧
      (deployment.construct = fun _ _ => .ok ()) ∧
      (deployment.json = fun leads => sampleSection (sampleRole leads)) ∧
      ∀ leads,
        (deployment.vehicle leads).publish.vehicleId =
          (if leads then ZMQ.vehicleIdLeader else memberId 1) ∧
        (deployment.vehicle leads).subscribes.map ZmqSubscribe.Config.vehicleId =
          if leads then [ZMQ.vehicleIdSubLeader, memberId 1, memberId 2]
          else [ZMQ.vehicleIdLeader, ZMQ.vehicleIdSubLeader, memberId 2] := by
  have usable (leads : Bool) : ∀ vehicles, fleet (sampleSection (sampleRole true)) = .ok vehicles →
      Usable samplePort (sampleSection (sampleRole leads)) vehicles := by
    intro vehicles loaded
    cases loaded
    cases leads with
    | true => exact ⟨rfl, .leader, 0, _, _, rfl, rfl, nofun, rfl, rfl⟩
    | false =>
      refine ⟨rfl, .member 2, 2, _, _, rfl, rfl, ?_, rfl, rfl⟩
      intro number same
      cases same
      exact Int.le_refl 2
  obtain ⟨deployment, parser, sockets, sections, programs, seats⟩ := swarm_forms samplePort
    (fun _ _ => .ok ()) (fun leads => sampleSection (sampleRole leads)) (fun _ => {}) _
    (fun _ _ => rfl) sampleDeployment.agree (fun leads => usable leads _ rfl) sampleDeployment.roles
    (by decide)
  refine ⟨deployment, parser, sockets, sections, ?_⟩
  intro leads
  have ran := deployment.ran leads
  rw [parser, sockets, sections, programs] at ran
  have left : sampleDeployment.after leads = deployment.after leads := congrArg Prod.snd ran
  have same : deployment.vehicle leads = sampleDeployment.vehicle leads := by
    have present := sampleDeployment.configured leads
    rw [left, deployment.configured leads] at present
    exact Option.some.inj present
  have own : (deployment.vehicle leads).publish.vehicleId =
      if leads then ZMQ.vehicleIdLeader else memberId 1 := by
    rw [same]
    cases leads with
    | true => rfl
    | false => rfl
  refine ⟨own, ?_⟩
  rw [(seats leads).2, own]
  cases leads with
  | true => rfl
  | false => rfl

end VehicleRunner.Swarm
