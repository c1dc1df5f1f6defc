import VehicleRunner.App.Json
import VehicleRunner.Misc.Errno
import VehicleRunner.Plugin.SmallSwarm

/-! `AppMain::_pluginSmallSwarm`: a vehicle's publisher and subscribers from the
`SmallSwarm Section`, by its role in the fleet. -/

namespace VehicleRunner.App

open VehicleRunner.Foundation VehicleRunner.Misc VehicleRunner.Bundle VehicleRunner.Plugin Json

namespace JsonKey

def smallSwarmLeader : String := "Leader"
def smallSwarmSubLeader : String := "Sub-Leader"
def smallSwarmMemberNo : String := "Member No"
def smallSwarmLeaderUrl : String := "Leader URL"
def smallSwarmSubLeaderUrl : String := "Sub-Leader URL"
def smallSwarmMemberPartial : String := "Member "

end JsonKey

/-- The key of a member by its number. -/
def memberKey (number : Nat) : String := JsonKey.smallSwarmMemberPartial ++ toString number

/-- The id given to the member loaded at loop index `n`, truncated to a byte. -/
def memberId (n : Nat) : Byte := BitVec.ofNat 8 (ZMQ.vehicleIdMemberNul + n)

/-- `publish_option` and `subscribe_configs`. The scratch `pub_config` is read only
once the option holds a copy of it. -/
structure Selection where
  publishOption : Option ZmqPublish.Config
  subscribeConfigs : List ZmqSubscribe.Config

/-- The branches on the role flags, before any member is looked at. -/
def selectRole (json : Value) : Except Exception Selection := do
  if ← json.readBool JsonKey.smallSwarmLeader then
    let localUrl ← json.readString JsonKey.smallSwarmLeaderUrl
    let remoteUrl ← json.readString JsonKey.smallSwarmSubLeaderUrl
    return ⟨some ⟨ZMQ.vehicleIdLeader, localUrl⟩, [⟨ZMQ.vehicleIdSubLeader, remoteUrl⟩]⟩
  else if ← json.readBool JsonKey.smallSwarmSubLeader then
    let localUrl ← json.readString JsonKey.smallSwarmSubLeaderUrl
    let remoteUrl ← json.readString JsonKey.smallSwarmLeaderUrl
    return ⟨some ⟨ZMQ.vehicleIdSubLeader, localUrl⟩, [⟨ZMQ.vehicleIdLeader, remoteUrl⟩]⟩
  else
    let leaderUrl ← json.readString JsonKey.smallSwarmLeaderUrl
    let subLeaderUrl ← json.readString JsonKey.smallSwarmSubLeaderUrl
    return ⟨none, [⟨ZMQ.vehicleIdLeader, leaderUrl⟩, ⟨ZMQ.vehicleIdSubLeader, subLeaderUrl⟩]⟩

/-- What the loop does with the URL found at index `n`. -/
def place (vehicleId : Int) (n : Nat) (url : String) (selection : Selection) : Selection :=
  if selection.publishOption.isNone ∧ vehicleId = (n : Int) + 1 then
    { selection with publishOption := some ⟨memberId n, url⟩ }
  else
    { selection with subscribeConfigs := selection.subscribeConfigs ++ [⟨memberId n, url⟩] }

/-- The member loop from index `n`, an `int` that would take a section of 2^31 keys to
overflow. It ends at the first key that is missing or holds nothing; the bound is
on its turns. -/
def memberLoop (json : Value) (vehicleId : Int) :
    Nat → Nat → Selection → Except Exception Selection
  | 0, _, _ => .error .unfinished
  | turns + 1, n, selection => do
    let member ← json.get (memberKey (n + 1))
    if member.empty then return selection
    let url ← member.asString
    memberLoop json vehicleId turns (n + 1) (place vehicleId n url selection)

/-- More turns than keys are always enough. -/
def turnsFor (json : Value) : Nat := json.keys.length + 1

def select (json : Value) : Except Exception Selection := do
  let selection ← selectRole json
  let vehicleId ← json.readInt JsonKey.smallSwarmMemberNo
  memberLoop json vehicleId (turnsFor json) 1 selection

/-- What follows the last colon of a URL; all of it if there is none. -/
def portText (url : String) : String :=
  String.ofList (url.toList.reverse.takeWhile (· ≠ ':')).reverse

/-- The local address a publisher binds for a port. -/
def bindUrl (port : BitVec 16) : String := "tcp://0.0.0.0:" ++ toString port.toNat

section Construction

-- Text to port, as the conversion library does it.
variable (lexicalCast : String → Option (BitVec 16))

/-- The configurations of the publisher and of the subscribers. -/
def configure (json : Value) : Except Exception (ZmqPublish.Config × List ZmqSubscribe.Config) := do
  let selection ← select json
  match selection.publishOption with
  | none => throw (.thrown (-EBADR))
  | some pubConfig =>
    match lexicalCast (portText pubConfig.localUrl) with
    | none => throw .badLexicalCast
    | some port => return ({ pubConfig with localUrl := bindUrl port }, selection.subscribeConfigs)

-- How the construction of each socket goes, in order: publisher, then subscribers.
variable (construct : Nat → Except Exception Unit)

/-- The subscribers constructed until one of them fails. -/
def makeSubscribes : Nat → List ZmqSubscribe.Config → Except Exception Unit × List ZmqSubscribe.Config
  | _, [] => (.ok (), [])
  | socket, config :: rest =>
    match construct socket with
    | .error raised => (.error raised, [])
    | .ok () =>
      let made := makeSubscribes (socket + 1) rest
      (made.1, config :: made.2)

/-- The components of the program, each under its configuration. -/
structure AppMain where
  mavVehicle : Option MavVehicle.Config := none
  zmqPublish : Option ZmqPublish.Config := none
  zmqSubscribes : Option (List ZmqSubscribe.Config) := none
  smallSwarm : Option SmallSwarm.Config := none
  deriving DecidableEq

/-- The assignments to the components; what was assigned stays when a later
construction fails. -/
def assemble (pubConfig : ZmqPublish.Config) (subscribeConfigs : List ZmqSubscribe.Config)
    (app : AppMain) : Except Exception Unit × AppMain :=
  match construct 0 with
  | .error raised => (.error raised, app)
  | .ok () =>
    let made := makeSubscribes construct 1 subscribeConfigs
    let app := { app with zmqPublish := some pubConfig, zmqSubscribes := some made.2 }
    match made.1 with
    | .error raised => (.error raised, app)
    | .ok () =>
      let swarmConfig : SmallSwarm.Config :=
        { vehicleId := pubConfig.vehicleId
          mavVehicle := app.mavVehicle
          zmqPublish := app.zmqPublish
          zmqSubscribes := app.zmqSubscribes }
      (.ok (), { app with smallSwarm := some swarmConfig })

def pluginSmallSwarm (json : Value) (app : AppMain) : Except Exception Unit × AppMain :=
  match configure lexicalCast json with
  | .error raised => (.error raised, app)
  | .ok (pubConfig, subscribeConfigs) => assemble construct pubConfig subscribeConfigs app

end Construction

end VehicleRunner.App
