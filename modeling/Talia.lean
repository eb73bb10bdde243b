import Talia.Lib.OrdMap
import Talia.Lib.Keyed
import Talia.Lib.Checked
import Talia.Lib.Saturating
import Talia.Lib.Meter
import Talia.Lib.Results
import Talia.Lib.Runs
import Talia.Lib.Loop
import Talia.Lib.Rounds
import Talia.Lib.Publication
import Talia.Lib.Broadcast
import Talia.Lib.Freshness
import Talia.Lib.Text
import Talia.Lib.Split
import Talia.Lib.IpAddr
import Talia.Lib.Serde
import Talia.Lib.Toml
import Talia.Lib.Json
import Talia.Lib.JsonLaws
import Talia.Lib.JsonRoundTrip
import Talia.Lib.JsonSuffix
import Talia.Lib.JsonTree
import Talia.Core.Pipeline
import Talia.Core.Config
import Talia.Core.ConfigSerde
import Talia.Core.ControlConfig
import Talia.Core.Resolution
import Talia.Core.Layers
import Talia.Core.Settings
import Talia.Core.Version
import Talia.Core.Edits
import Talia.Core.Control
import Talia.Core.ControlUrl
import Talia.Core.Messages
import Talia.Control.Load
import Talia.Control.Agents
import Talia.Control.Server
import Talia.Control.Sessions
import Talia.Control.Disclosure
import Talia.Control.Enrollment
import Talia.Control.Separation
import Talia.Control.Noninterference
import Talia.Control.Validation
import Talia.Control.Reload
import Talia.Control.Rejection
import Talia.Control.Privilege
import Talia.Control.Socket
import Talia.Control.Notifications
import Talia.Agent.Identity
import Talia.Agent.LocalConfig
import Talia.Agent.Refresh
import Talia.Agent.Poll
import Talia.Agent.Runner
import Talia.Agent.Overrides
import Talia.Agent.Collect
import Talia.Agent.Memory
import Talia.Agent.Filesystem
import Talia.Agent.Cpu
import Talia.Agent.Latency
import Talia.Agent.InFlight
import Talia.Agent.OctalPath
import Talia.Agent.MountInfo
import Talia.Agent.Storage
import Talia.Agent.Pids
import Talia.Agent.Scan
import Talia.Agent.Attribution
import Talia.Agent.Worker
import Talia.Agent.Discovery
import Talia.Agent.Traffic
import Talia.Agent.Packets
import Talia.Agent.ProcNet
import Talia.Agent.Tcp
import Talia.Agent.Outage
import Talia.Agent.Samples
import Talia.Agent.Otlp
import Talia.Agent.Stdout
import Talia.Deployment.Convergence
import Talia.Deployment.Credentials
import Talia.Deployment.Heartbeats
import Talia.Deployment.Startup
import Talia.Deployment.Lifetime
import Talia.Control.Availability
import Talia.Lib.JsonLines
