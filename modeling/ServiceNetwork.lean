import ServiceNetwork.Library.Replay
import ServiceNetwork.Library.History
import ServiceNetwork.Library.Projection
import ServiceNetwork.Library.Reach
import ServiceNetwork.Library.Behavior
import ServiceNetwork.Library.Party
import ServiceNetwork.Library.Joining
import ServiceNetwork.Library.Sweep
import ServiceNetwork.Library.Heartbeat
import ServiceNetwork.Library.Timing
import ServiceNetwork.Library.Locking
import ServiceNetwork.Library.Deadlock
import ServiceNetwork.Library.Starvation
import ServiceNetwork.Library.Quoting
import ServiceNetwork.Library.UrlPath
import ServiceNetwork.Library.Register
import ServiceNetwork.Library.Numeral
import ServiceNetwork.Rust
import ServiceNetwork.SocketAddr
import ServiceNetwork.Server
import ServiceNetwork.Config
import ServiceNetwork.Utils
import ServiceNetwork.Peer.Broker
import ServiceNetwork.Peer.Discovery
import ServiceNetwork.Peer.Browsing
import ServiceNetwork.Peer.Selection
import ServiceNetwork.ServiceBroker.Registration
import ServiceNetwork.ServiceBroker.LocalWorker
import ServiceNetwork.ServiceBroker.Management
import ServiceNetwork.ServiceBroker.WorkerLease
import ServiceNetwork.ServiceBroker.WorkerTable
import ServiceNetwork.ServiceBroker.KeepaliveSafety
import ServiceNetwork.ServiceBroker.QueryForwarder
import ServiceNetwork.ServiceBroker.FailureDetector
import ServiceNetwork.ServiceBroker.TaskLocks
import ServiceNetwork.ServiceWorker.Runtime
import ServiceNetwork.ServiceWorker.PublicForwarder
import ServiceNetwork.ServiceWorker.System
import ServiceNetwork.ServiceWorker.StatusProtocol
import ServiceNetwork.ServiceWorker.FailureRecovery
import ServiceNetwork.ServiceWorker.FailureReports
import ServiceNetwork.ServiceWorker.StatusDrivers
import ServiceNetwork.ServiceWorker.Provisioning
import ServiceNetwork.ServiceWorker.ServedKey
import ServiceNetwork.ServiceWorker.Admission
import ServiceNetwork.ServiceWorker.WaitLoop
import ServiceNetwork.ServiceWorker.NetworkData
import ServiceNetwork.ServiceWorker.OutboundProxy
import ServiceNetwork.ServiceWorker.BrokerDiscovery
import ServiceNetwork.ServiceWorker.Accounting
import ServiceNetwork.ServiceWorker.ProxyConfigured
import ServiceNetwork.ServiceWorker.Liveness
import ServiceNetwork.ServiceWorker.Recovery
import ServiceNetwork.ServiceWorker.TaskLocks
import ServiceNetwork.ServiceWorker.Process
import ServiceNetwork.ServiceBroker.Process
import ServiceNetwork.Pipeline.WorkerIdentity
import ServiceNetwork.Pipeline.QueryMethod
import ServiceNetwork.Pipeline.ForwarderAddress
import ServiceNetwork.Pipeline.OutboundAddress
import ServiceNetwork.Pipeline.Deployment
import ServiceNetwork.Pipeline.TableProvenance
import ServiceNetwork.Pipeline.KeepaliveDelivery
import ServiceNetwork.Pipeline.QueryAnswer
import ServiceNetwork.Pipeline.FaultContainment
import ServiceNetwork.Pipeline.SoftState
import ServiceNetwork.Pipeline.Availability
import ServiceNetwork.Pipeline.ServingRound
