import StorageLifecycle.Cluster.Address
import StorageLifecycle.Cluster.Affinity
import StorageLifecycle.Cluster.Attachment
import StorageLifecycle.Cluster.Claim
import StorageLifecycle.Cluster.Listing
import StorageLifecycle.Cluster.Metadata
import StorageLifecycle.Cluster.Object
import StorageLifecycle.Cluster.Pod
import StorageLifecycle.Cluster.Pump
import StorageLifecycle.Cluster.Refusal
import StorageLifecycle.Cluster.Resume
import StorageLifecycle.Cluster.Schema
import StorageLifecycle.Cluster.Service
import StorageLifecycle.Cluster.Stream
import StorageLifecycle.Cluster.Volume
import StorageLifecycle.CommandLine
import StorageLifecycle.Config.Basic
import StorageLifecycle.Config.Document
import StorageLifecycle.Config.Environment
import StorageLifecycle.Config.File
import StorageLifecycle.Entity
import StorageLifecycle.Event
import StorageLifecycle.Failure
import StorageLifecycle.Json.Basic
import StorageLifecycle.Json.Decode
import StorageLifecycle.Json.Reader
import StorageLifecycle.Keyed
import StorageLifecycle.Main
import StorageLifecycle.Metrics.Collect
import StorageLifecycle.Metrics.Document
import StorageLifecycle.Metrics.Statistics
import StorageLifecycle.Metrics.Timeline
import StorageLifecycle.Observation
import StorageLifecycle.Observer
import StorageLifecycle.ObserverKind
import StorageLifecycle.Proofs.Backends.Acceptance
import StorageLifecycle.Proofs.Backends.Ascending
import StorageLifecycle.Proofs.Backends.Collecting
import StorageLifecycle.Proofs.Backends.Durations
import StorageLifecycle.Proofs.Backends.Identity
import StorageLifecycle.Proofs.Backends.Lasting
import StorageLifecycle.Proofs.Backends.Legible
import StorageLifecycle.Proofs.Backends.Lockstep
import StorageLifecycle.Proofs.Backends.Matching
import StorageLifecycle.Proofs.Backends.Metrics
import StorageLifecycle.Proofs.Backends.Peaks
import StorageLifecycle.Proofs.Backends.Reading
import StorageLifecycle.Proofs.Backends.Refusing
import StorageLifecycle.Proofs.Backends.RoundTrip
import StorageLifecycle.Proofs.Backends.Rows
import StorageLifecycle.Proofs.Backends.Runs
import StorageLifecycle.Proofs.Backends.Twins
import StorageLifecycle.Proofs.Cluster.Course
import StorageLifecycle.Proofs.Cluster.Following
import StorageLifecycle.Proofs.Cluster.Forgotten
import StorageLifecycle.Proofs.Cluster.Reopening
import StorageLifecycle.Proofs.Cluster.Resumption
import StorageLifecycle.Proofs.Cluster.Waiting
import StorageLifecycle.Proofs.Config.Decoding
import StorageLifecycle.Proofs.Config.Precedence
import StorageLifecycle.Proofs.Config.Settings
import StorageLifecycle.Proofs.Crew.AllOrNothing
import StorageLifecycle.Proofs.Crew.Attendance
import StorageLifecycle.Proofs.Crew.Books
import StorageLifecycle.Proofs.Crew.Naming
import StorageLifecycle.Proofs.Crew.References
import StorageLifecycle.Proofs.Crew.Rehearsing
import StorageLifecycle.Proofs.Crew.Rooting
import StorageLifecycle.Proofs.Crew.Runs
import StorageLifecycle.Proofs.Crew.Typing
import StorageLifecycle.Proofs.Ensemble.Filing
import StorageLifecycle.Proofs.Ensemble.Joint
import StorageLifecycle.Proofs.Ensemble.Ledger
import StorageLifecycle.Proofs.Ensemble.Members
import StorageLifecycle.Proofs.Ensemble.Naming
import StorageLifecycle.Proofs.Ensemble.Numbering
import StorageLifecycle.Proofs.Ensemble.Schedules
import StorageLifecycle.Proofs.Ensemble.Sharing
import StorageLifecycle.Proofs.Ensemble.Tracing
import StorageLifecycle.Proofs.Ensemble.Turns
import StorageLifecycle.Proofs.Keyed
import StorageLifecycle.Proofs.Metrics.Collecting
import StorageLifecycle.Proofs.Metrics.Coverage
import StorageLifecycle.Proofs.Metrics.Frozen
import StorageLifecycle.Proofs.Metrics.Partition
import StorageLifecycle.Proofs.Metrics.Peaks
import StorageLifecycle.Proofs.Metrics.Renumbering
import StorageLifecycle.Proofs.Metrics.Rounding
import StorageLifecycle.Proofs.Metrics.Runs
import StorageLifecycle.Proofs.Metrics.Statistics
import StorageLifecycle.Proofs.Metrics.Timeline
import StorageLifecycle.Proofs.Observation.Accounting
import StorageLifecycle.Proofs.Observation.Archive
import StorageLifecycle.Proofs.Observation.Limits
import StorageLifecycle.Proofs.Observation.Stores
import StorageLifecycle.Proofs.Observation.Whole
import StorageLifecycle.Proofs.Runner.Acts
import StorageLifecycle.Proofs.Runner.Lifecycle
import StorageLifecycle.Proofs.Runner.Situations
import StorageLifecycle.Proofs.Session.Binding
import StorageLifecycle.Proofs.Session.Clamp
import StorageLifecycle.Proofs.Session.Coins
import StorageLifecycle.Proofs.Session.Converging
import StorageLifecycle.Proofs.Session.Dealing
import StorageLifecycle.Proofs.Session.Flush
import StorageLifecycle.Proofs.Session.Grammar
import StorageLifecycle.Proofs.Session.Guard
import StorageLifecycle.Proofs.Session.HandOff
import StorageLifecycle.Proofs.Session.Handling
import StorageLifecycle.Proofs.Session.Ignoring
import StorageLifecycle.Proofs.Session.InStep
import StorageLifecycle.Proofs.Session.Naming
import StorageLifecycle.Proofs.Session.Operations
import StorageLifecycle.Proofs.Session.Outputs
import StorageLifecycle.Proofs.Session.Owned
import StorageLifecycle.Proofs.Session.Parking
import StorageLifecycle.Proofs.Session.Proper
import StorageLifecycle.Proofs.Session.Publishing
import StorageLifecycle.Proofs.Session.Rooting
import StorageLifecycle.Proofs.Session.Runs
import StorageLifecycle.Proofs.Session.Sampling
import StorageLifecycle.Proofs.Session.Spans
import StorageLifecycle.Proofs.Session.Stamping
import StorageLifecycle.Proofs.Session.Unresolved
import StorageLifecycle.Proofs.Store.Atomicity
import StorageLifecycle.Proofs.Store.Basic
import StorageLifecycle.Proofs.Store.Batches
import StorageLifecycle.Proofs.Store.Calls
import StorageLifecycle.Proofs.Store.Filling
import StorageLifecycle.Proofs.Store.Identity
import StorageLifecycle.Proofs.Store.Integrity
import StorageLifecycle.Proofs.Store.Memory
import StorageLifecycle.Proofs.Store.Relational
import StorageLifecycle.Proofs.Store.Rows
import StorageLifecycle.Proofs.Store.Transactions
import StorageLifecycle.Proofs.Store.Views
import StorageLifecycle.Records
import StorageLifecycle.Registry
import StorageLifecycle.Rehearsal.Basic
import StorageLifecycle.Rehearsal.Client
import StorageLifecycle.Rehearsal.Observer
import StorageLifecycle.Rehearsal.Poller
import StorageLifecycle.Rehearsal.Round
import StorageLifecycle.Rehearsal.Runner
import StorageLifecycle.Rehearsal.Scene
import StorageLifecycle.Rehearsal.Source
import StorageLifecycle.Resource
import StorageLifecycle.Runner
import StorageLifecycle.Session.Basic
import StorageLifecycle.Session.Course
import StorageLifecycle.Session.Crew
import StorageLifecycle.Session.Ensemble
import StorageLifecycle.Session.Finish
import StorageLifecycle.Session.Report
import StorageLifecycle.Session.Shared
import StorageLifecycle.Session.Tally
import StorageLifecycle.SocketAddress
import StorageLifecycle.Startup
import StorageLifecycle.Store.Backend
import StorageLifecycle.Store.Basic
import StorageLifecycle.Store.Cell
import StorageLifecycle.Store.Faulty
import StorageLifecycle.Store.Memory
import StorageLifecycle.Store.Overwrite
import StorageLifecycle.Store.Relational
import StorageLifecycle.Telemetry
import StorageLifecycle.TestCase
import StorageLifecycle.Text.Decimal
import StorageLifecycle.Text.Double
import StorageLifecycle.Text.Joining
import StorageLifecycle.Text.Literal
import StorageLifecycle.Text.Percent
import StorageLifecycle.Text.Unseen
import StorageLifecycle.Text.Utf8
import StorageLifecycle.Text.Word
import StorageLifecycle.Time.Calendar
import StorageLifecycle.Time.Instant
import StorageLifecycle.Time.Rfc3339
import StorageLifecycle.Time.Tick
import StorageLifecycle.Toml.Quoted
import StorageLifecycle.Toml.Reader
import StorageLifecycle.Toml.Scalar
import StorageLifecycle.Toml.Table
