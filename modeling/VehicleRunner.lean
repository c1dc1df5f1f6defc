import VehicleRunner.Foundation.BitRegister
import VehicleRunner.Foundation.Shifting
import VehicleRunner.Foundation.Division
import VehicleRunner.Foundation.Transition
import VehicleRunner.Foundation.Guarding
import VehicleRunner.Foundation.Ranking
import VehicleRunner.Foundation.Ring
import VehicleRunner.Foundation.Storage
import VehicleRunner.Foundation.Transducer
import VehicleRunner.Foundation.LossyLink
import VehicleRunner.Foundation.Simulation
import VehicleRunner.Foundation.Bulletin
import VehicleRunner.Foundation.Mutex
import VehicleRunner.Foundation.Recollection
import VehicleRunner.Misc.Errno
import VehicleRunner.Misc.Checksum
import VehicleRunner.Misc.Remainder
import VehicleRunner.Misc.Errors
import VehicleRunner.Misc.ZmqMessage
import VehicleRunner.Bundle.ZmqPublish
import VehicleRunner.Bundle.ZmqSubscribe
import VehicleRunner.Bundle.SubscribeThread
import VehicleRunner.Bundle.ZmqEndpoint
import VehicleRunner.Bundle.FrameErrors
import VehicleRunner.Bundle.FrameDetection
import VehicleRunner.Bundle.MavVehicle
import VehicleRunner.Bundle.MavDiscovery
import VehicleRunner.Bundle.MavLifecycle
import VehicleRunner.Bundle.MavHelper
import VehicleRunner.Bundle.MavExtension
import VehicleRunner.Bundle.MavStreaming
import VehicleRunner.Bundle.MqttClient
import VehicleRunner.Bundle.MqttSession
import VehicleRunner.Bundle.MqttLists
import VehicleRunner.Bundle.MqttService
import VehicleRunner.Plugin.SmallSwarm
import VehicleRunner.Plugin.SwarmSlots
import VehicleRunner.Plugin.Cadence
import VehicleRunner.Plugin.EventRing
import VehicleRunner.Plugin.EventLock
import VehicleRunner.Plugin.SwarmThread
import VehicleRunner.Plugin.Broadcast
import VehicleRunner.Plugin.RoundTrip
import VehicleRunner.App.Json
import VehicleRunner.App.AppMain
import VehicleRunner.App.MemberLoop
import VehicleRunner.App.Fleet
import VehicleRunner.App.Selection
import VehicleRunner.App.Agreement
import VehicleRunner.App.Admission
import VehicleRunner.App.Identity
import VehicleRunner.App.Construction
import VehicleRunner.App.Containment
import VehicleRunner.App.Execution
import VehicleRunner.App.FeatureBroadcast
import VehicleRunner.App.Announcement
import VehicleRunner.Swarm.Network
import VehicleRunner.Swarm.Delivery
import VehicleRunner.Swarm.Protocol
import VehicleRunner.Swarm.Provenance
import VehicleRunner.Swarm.Processes
import VehicleRunner.Swarm.Progress
import VehicleRunner.Swarm.Intrusion
import VehicleRunner.Swarm.Refinement
import VehicleRunner.Swarm.Formation
