import UdpDirector.Foundation.Table
import UdpDirector.Foundation.Run
import UdpDirector.Clock
import UdpDirector.Config
import UdpDirector.Foundation.Least
import UdpDirector.Foundation.VersionedStore
import UdpDirector.Kube.Json
import UdpDirector.Kube.Object
import UdpDirector.Characters
import UdpDirector.Kube.Extract
import UdpDirector.Characters.Shown
import UdpDirector.Net.SocketAddr
import UdpDirector.Session
import UdpDirector.Demand
import UdpDirector.Access.Request
import UdpDirector.Access.Selection
import UdpDirector.Access.Target
import UdpDirector.Kube.Cluster
import UdpDirector.Access.World
import UdpDirector.Access.Steps
import UdpDirector.Access.Snapshots
import UdpDirector.Access.Safety
import UdpDirector.Access.Discipline
import UdpDirector.Access.Outcome
import UdpDirector.Access.Sticky
import UdpDirector.Access.Allocator
import UdpDirector.Access.Isolation
import UdpDirector.Access.Schedule
import UdpDirector.Access.Serial
import UdpDirector.Access.Route
import UdpDirector.Proxy.LoadBalancer
import UdpDirector.Proxy.Endpoint
import UdpDirector.Proxy.Operations
import UdpDirector.Proxy.DefaultRoute
import UdpDirector.Proxy.Cleanup
import UdpDirector.Proxy.Sockets
import UdpDirector.Access.Flights
import UdpDirector.Access.Refusals
import UdpDirector.Access.Watch
import UdpDirector.Access.Unmissed
import UdpDirector.Access.FreeSeat
import UdpDirector.Proxy.Counts
import UdpDirector.Proxy.Traffic
import UdpDirector.Proxy.Replies
import UdpDirector.Proxy.Callback
import UdpDirector.Proxy.Monitor
import UdpDirector.Proxy.Strategy
import UdpDirector.Proxy.Balance
import UdpDirector.Proxy.Stale
import UdpDirector.Proxy.Fingerprint
import UdpDirector.Proxy.Activity
import UdpDirector.Proxy.Provenance
import UdpDirector.Foundation.Refinement
import UdpDirector.Proxy.Router
import UdpDirector.Characters.Roster
import UdpDirector.Access.Canonical
import UdpDirector.Characters.Passage
import UdpDirector.Access.Reading
import UdpDirector.Proxy.Arithmetic
import UdpDirector.Access.Selectors
import UdpDirector.Proxy.Agreement
import UdpDirector.Access.Lookup
import UdpDirector.Access.Windows
import UdpDirector.Kube.Path
import UdpDirector.Kube.Filtering
import UdpDirector.Kube.Calm
import UdpDirector.Validation
import UdpDirector.Demand.Signals
import UdpDirector.Access.Outgoing
import UdpDirector.Kube.Merge
import UdpDirector.Characters.RoundTrip
import UdpDirector.Foundation.Derive
import UdpDirector.Proxy.Documented
import UdpDirector.Proxy.Expiry
import UdpDirector.Deployment
import UdpDirector.Deployment.Routing
import UdpDirector.Deployment.Answer
import UdpDirector.Access.Progress
import UdpDirector.Proxy.Progress
import UdpDirector.Access.Panics
import UdpDirector.Proxy.Panics
import UdpDirector.Deployment.Panics
