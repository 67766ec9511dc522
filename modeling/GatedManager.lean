import GatedManager.Api.AnyObject
import GatedManager.Api.ClusterVersion
import GatedManager.Api.ConfigMap
import GatedManager.Api.Error
import GatedManager.Api.FeatureGate
import GatedManager.Api.Lease
import GatedManager.Api.Machine
import GatedManager.Api.MachineSet
import GatedManager.Api.Meta
import GatedManager.Api.Resource
import GatedManager.Cache.Objects
import GatedManager.Cache.Options
import GatedManager.Cache.Resync
import GatedManager.Cache.Typed
import GatedManager.CommandLine.Flag
import GatedManager.CommandLine.Parser
import GatedManager.CommandLine.Settings
import GatedManager.CommandLine.Usage
import GatedManager.Duration
import GatedManager.Duration.Offsets
import GatedManager.Duration.Reader
import GatedManager.Election.Campaign
import GatedManager.Election.Config
import GatedManager.Election.Elector
import GatedManager.Election.Identity
import GatedManager.Election.Record
import GatedManager.Gates.Access
import GatedManager.Gates.Error
import GatedManager.Gates.Following
import GatedManager.Gates.Snapshot
import GatedManager.Gates.Wait
import GatedManager.Health.Checks
import GatedManager.Health.Endpoints
import GatedManager.Http.Form
import GatedManager.Http.Message
import GatedManager.Json
import GatedManager.Json.Reader
import GatedManager.Json.Record
import GatedManager.Logging.Filter
import GatedManager.Logging.Line
import GatedManager.Logging.Verbosity
import GatedManager.Main
import GatedManager.Manager.Error
import GatedManager.Manager.Options
import GatedManager.Manager.Registration
import GatedManager.Manager.Run
import GatedManager.Manager.Runnable
import GatedManager.Manager.Tasks
import GatedManager.Metrics
import GatedManager.Net.BindAddress
import GatedManager.Net.Ip
import GatedManager.Number.Binary
import GatedManager.Number.Shortest
import GatedManager.Proofs.Api.Config
import GatedManager.Proofs.Api.Fields
import GatedManager.Proofs.Api.Lease
import GatedManager.Proofs.Api.Machines
import GatedManager.Proofs.Api.Metadata
import GatedManager.Proofs.Api.NormalForm
import GatedManager.Proofs.Cache.Keys
import GatedManager.Proofs.Cache.Life
import GatedManager.Proofs.Cache.Progress
import GatedManager.Proofs.Cache.Reads
import GatedManager.Proofs.Cache.Ticks
import GatedManager.Proofs.Duration.Grammar
import GatedManager.Proofs.Duration.Loop
import GatedManager.Proofs.Election.Attempt
import GatedManager.Proofs.Election.Authorship
import GatedManager.Proofs.Election.Calls
import GatedManager.Proofs.Election.Cancellation
import GatedManager.Proofs.Election.Chronicle
import GatedManager.Proofs.Election.Contest
import GatedManager.Proofs.Election.Durations
import GatedManager.Proofs.Election.Expiry
import GatedManager.Proofs.Election.Foreign
import GatedManager.Proofs.Election.Incumbency
import GatedManager.Proofs.Election.Ledger
import GatedManager.Proofs.Election.Minutes
import GatedManager.Proofs.Election.Passage
import GatedManager.Proofs.Election.Recognition
import GatedManager.Proofs.Election.Record
import GatedManager.Proofs.Election.Sightings
import GatedManager.Proofs.Election.Silence
import GatedManager.Proofs.Election.Stages
import GatedManager.Proofs.Election.Succession
import GatedManager.Proofs.Election.Takeover
import GatedManager.Proofs.Election.Tenure
import GatedManager.Proofs.Election.Timetable
import GatedManager.Proofs.Election.Vigil
import GatedManager.Proofs.Gates.History
import GatedManager.Proofs.Gates.Race
import GatedManager.Proofs.Gates.Verdict
import GatedManager.Proofs.Gates.WakeUps
import GatedManager.Proofs.Health.Agreement
import GatedManager.Proofs.Health.Exclusion
import GatedManager.Proofs.Health.Query
import GatedManager.Proofs.Health.Registration
import GatedManager.Proofs.Http.Percent
import GatedManager.Proofs.Json.Members
import GatedManager.Proofs.Json.Ordered
import GatedManager.Proofs.Logging.Directives
import GatedManager.Proofs.Manager.CleanStop
import GatedManager.Proofs.Manager.Course
import GatedManager.Proofs.Manager.FirstFailure
import GatedManager.Proofs.Manager.Grace
import GatedManager.Proofs.Manager.LateStart
import GatedManager.Proofs.Manager.Leadership
import GatedManager.Proofs.Manager.Leading
import GatedManager.Proofs.Manager.Order
import GatedManager.Proofs.Manager.Proceeding
import GatedManager.Proofs.Manager.Stations
import GatedManager.Proofs.Manager.Steady
import GatedManager.Proofs.Manager.Tasks
import GatedManager.Proofs.Net.BindAddress
import GatedManager.Proofs.Net.Ipv4
import GatedManager.Proofs.Net.Ipv6
import GatedManager.Proofs.Net.Literal
import GatedManager.Proofs.Net.RoundTrip
import GatedManager.Proofs.Results
import GatedManager.Proofs.Runs
import GatedManager.Proofs.Simulation.LeaseServer
import GatedManager.Proofs.Startup.Advancing
import GatedManager.Proofs.Startup.Course
import GatedManager.Proofs.Startup.Phases
import GatedManager.Proofs.Text.Blank
import GatedManager.Proofs.Text.Digits
import GatedManager.Proofs.Text.NameSet
import GatedManager.Proofs.Text.Split
import GatedManager.Proofs.Text.Utf8
import GatedManager.Proofs.Time.Calendar
import GatedManager.Proofs.Time.Carry
import GatedManager.Proofs.Time.Timer
import GatedManager.Proofs.Time.Written
import GatedManager.Proofs.Watch.Kept
import GatedManager.Scheme
import GatedManager.Shutdown
import GatedManager.Simulation.CacheRun
import GatedManager.Simulation.ElectionRun
import GatedManager.Simulation.GateRun
import GatedManager.Simulation.GateWait
import GatedManager.Simulation.LeaseServer
import GatedManager.Simulation.ManagerRun
import GatedManager.Simulation.ObjectServer
import GatedManager.Simulation.ProcessRun
import GatedManager.Startup.Error
import GatedManager.Startup.Launch
import GatedManager.Startup.Options
import GatedManager.Startup.Process
import GatedManager.Text.Alphanumeric
import GatedManager.Text.Base64
import GatedManager.Text.Blank
import GatedManager.Text.NameSet
import GatedManager.Text.Numeral
import GatedManager.Text.Printable
import GatedManager.Text.Quoted
import GatedManager.Text.Split
import GatedManager.Text.Utf8
import GatedManager.Time
import GatedManager.Time.Calendar
import GatedManager.Time.Clock
import GatedManager.Time.Reader
import GatedManager.Watch.Collection
import GatedManager.Watch.Informer
import GatedManager.Watch.Reflector
import GatedManager.Watch.Store
import GatedManager.Watch.Wire
