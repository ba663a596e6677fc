import MavRouter.Routing.Accounting
import MavRouter.Routing.Eviction
import MavRouter.Routing.Effect
import MavRouter.Routing.Membership
import MavRouter.Routing.Reference
import MavRouter.Routing.Refinement
import MavRouter.Routing.Answers
import MavRouter.Routing.Listing
import MavRouter.Routing.Delivery
import MavRouter.Routing.Expiry
import MavRouter.Routing.Throttle
import MavRouter.Routing.Orphans
import MavRouter.Framing.Chunks
import MavRouter.Framing.Corruption
import MavRouter.Framing.RawBytes
import MavRouter.Framing.Conservation
import MavRouter.Ingress.Core
import MavRouter.Ingress.Publication
import MavRouter.Ingress.Sharding
import MavRouter.Ingress.Window
import MavRouter.Ingress.TimeWheel
import MavRouter.Ingress.Learning
import MavRouter.Config.Load
import MavRouter.Config.ConflictFree
import MavRouter.Orchestration.RunLoop
import MavRouter.Orchestration.SpawnAll
import MavRouter.Orchestration.Updater
import MavRouter.Orchestration.StatsHistory
import MavRouter.Orchestration.Aggregate
import MavRouter.Orchestration.StatsServer
import MavRouter.Endpoints.Udp
import MavRouter.Endpoints.UdpPeers
import MavRouter.Endpoints.StreamLoop
import MavRouter.Endpoints.Tlog
import MavRouter.Endpoints.Groups
import MavRouter.Endpoints.Reconnect
import MavRouter.Orchestration.Supervisor
import MavRouter.Orchestration.UpdaterLoop
import MavRouter.Network.Forwarding
import MavRouter.Network.Duplicates
import MavRouter.Network.Routes
import MavRouter.Network.Counters
import MavRouter.Network.Wire
import MavRouter.Network.Packets
import MavRouter.Network.Logging
import MavRouter.Orchestration.StatsReporter
import MavRouter.Endpoints.Clients
import MavRouter.Network.Clients
import MavRouter.Network.Delivery
import MavRouter.Endpoints.StreamSession
import MavRouter.Network.Sessions
import MavRouter.Network.Silence
import MavRouter.Network.Transparency
