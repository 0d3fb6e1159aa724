import Tenancy.Assoc
import Tenancy.Calendar.Date
import Tenancy.Dsn.Basic
import Tenancy.Dsn.SslMode
import Tenancy.Duration
import Tenancy.Json.Basic
import Tenancy.Json.Source
import Tenancy.Json.Syntax
import Tenancy.Json.Value
import Tenancy.Json.Writer
import Tenancy.Log.Directive
import Tenancy.Log.Filter
import Tenancy.Log.Value
import Tenancy.Manager.Basic
import Tenancy.Manager.Config
import Tenancy.Manager.Creation
import Tenancy.Manager.Prewarm
import Tenancy.Manager.Shutdown
import Tenancy.Manager.Step
import Tenancy.Manager.Sweep
import Tenancy.Manager.Task
import Tenancy.Number.Binary64
import Tenancy.Number.Shortest
import Tenancy.Numbering.Basic
import Tenancy.Numbering.Counters
import Tenancy.Numbering.Error
import Tenancy.Numbering.Strategy
import Tenancy.Pool.Basic
import Tenancy.Pool.Connections
import Tenancy.Pool.Error
import Tenancy.Pool.Statistics
import Tenancy.Pool.Words
import Tenancy.Proofs.Assoc
import Tenancy.Proofs.Dsn.Database
import Tenancy.Proofs.Dsn.Password
import Tenancy.Proofs.Dsn.Reading
import Tenancy.Proofs.Dsn.Redaction
import Tenancy.Proofs.Duration.Reading
import Tenancy.Proofs.Json.Exact
import Tenancy.Proofs.Json.Magnitude
import Tenancy.Proofs.Json.Meaning
import Tenancy.Proofs.Json.Numeral
import Tenancy.Proofs.Json.Reading
import Tenancy.Proofs.Manager.Attempt
import Tenancy.Proofs.Manager.Cancellation
import Tenancy.Proofs.Manager.Closers
import Tenancy.Proofs.Manager.Closing
import Tenancy.Proofs.Manager.Connections
import Tenancy.Proofs.Manager.Convergence
import Tenancy.Proofs.Manager.Course
import Tenancy.Proofs.Manager.Discard
import Tenancy.Proofs.Manager.Disposal
import Tenancy.Proofs.Manager.Drain
import Tenancy.Proofs.Manager.Entries
import Tenancy.Proofs.Manager.Errand
import Tenancy.Proofs.Manager.Eviction
import Tenancy.Proofs.Manager.Grants
import Tenancy.Proofs.Manager.Identity
import Tenancy.Proofs.Manager.Judgement
import Tenancy.Proofs.Manager.Kinship
import Tenancy.Proofs.Manager.LaterClose
import Tenancy.Proofs.Manager.Leases
import Tenancy.Proofs.Manager.Ledger
import Tenancy.Proofs.Manager.LivePool
import Tenancy.Proofs.Manager.Loops
import Tenancy.Proofs.Manager.Making
import Tenancy.Proofs.Manager.Move
import Tenancy.Proofs.Manager.Once
import Tenancy.Proofs.Manager.Prewarm
import Tenancy.Proofs.Manager.Quiet
import Tenancy.Proofs.Manager.Readdress
import Tenancy.Proofs.Manager.Run
import Tenancy.Proofs.Manager.Shutdown
import Tenancy.Proofs.Manager.ShutdownGate
import Tenancy.Proofs.Manager.Slots
import Tenancy.Proofs.Manager.Started
import Tenancy.Proofs.Manager.Statistics
import Tenancy.Proofs.Manager.StatusGate
import Tenancy.Proofs.Manager.Stragglers
import Tenancy.Proofs.Manager.Sweeps
import Tenancy.Proofs.Manager.Usage
import Tenancy.Proofs.Manager.Warming
import Tenancy.Proofs.Manager.WarmingRun
import Tenancy.Proofs.Number.Rounding
import Tenancy.Proofs.Numbering.Accounted
import Tenancy.Proofs.Numbering.Allocation
import Tenancy.Proofs.Numbering.Books
import Tenancy.Proofs.Numbering.Burst
import Tenancy.Proofs.Numbering.Cluster
import Tenancy.Proofs.Numbering.Forgetting
import Tenancy.Proofs.Numbering.Outage
import Tenancy.Proofs.Numbering.Override
import Tenancy.Proofs.Numbering.Refinement
import Tenancy.Proofs.Numbering.Requests
import Tenancy.Proofs.Numbering.Series
import Tenancy.Proofs.Numbering.Session
import Tenancy.Proofs.Numbering.Shape
import Tenancy.Proofs.Numbering.Texts
import Tenancy.Proofs.Pool.History
import Tenancy.Proofs.Pool.Statistics
import Tenancy.Proofs.Sequence.Identity
import Tenancy.Proofs.Sequence.Key
import Tenancy.Proofs.Sequence.Number
import Tenancy.Proofs.Settings.RoundTrip
import Tenancy.Proofs.Simulation.Alone
import Tenancy.Proofs.Simulation.Calls
import Tenancy.Proofs.Simulation.Creation
import Tenancy.Proofs.Simulation.HealthCheck
import Tenancy.Proofs.Simulation.HealthSweep
import Tenancy.Proofs.Simulation.Naming
import Tenancy.Proofs.Simulation.Probing
import Tenancy.Proofs.Simulation.Secrecy
import Tenancy.Proofs.Store.Changes
import Tenancy.Proofs.Store.Counting
import Tenancy.Proofs.Store.Framed
import Tenancy.Proofs.Store.Index
import Tenancy.Proofs.Store.Listing
import Tenancy.Proofs.Store.Readable
import Tenancy.Proofs.Store.Transaction
import Tenancy.Proofs.Tenant.Record
import Tenancy.Proofs.Tenant.RoundTrip
import Tenancy.Proofs.Tenant.Slug
import Tenancy.Proofs.Text.Cut
import Tenancy.Proofs.Text.Decimal
import Tenancy.Proofs.Toml.Bare
import Tenancy.Proofs.Toml.Quotation
import Tenancy.Proofs.Toml.Reading
import Tenancy.Record
import Tenancy.Sequence.Basic
import Tenancy.Settings.Basic
import Tenancy.Settings.File
import Tenancy.Settings.Json
import Tenancy.Simulation.Backend
import Tenancy.Simulation.Basic
import Tenancy.Simulation.Directory
import Tenancy.Simulation.Remote
import Tenancy.Store.Basic
import Tenancy.Store.Error
import Tenancy.Store.Failures
import Tenancy.Tenant.Basic
import Tenancy.Tenant.Record
import Tenancy.Text.Alphanumeric
import Tenancy.Text.Blank
import Tenancy.Text.Cut
import Tenancy.Text.Decimal
import Tenancy.Text.Hidden
import Tenancy.Text.Quoted
import Tenancy.Toml.Bare
import Tenancy.Toml.Basic
import Tenancy.Toml.Quotation
import Tenancy.Toml.Reader
import Tenancy.Toml.Source
import Tenancy.Toml.Table
import Tenancy.Toml.Writer
