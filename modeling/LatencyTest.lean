import LatencyTest.Lib.Decimal
import LatencyTest.Lib.Numeral
import LatencyTest.Lib.MapSum
import LatencyTest.Lib.Keyed
import LatencyTest.Lib.Run
import LatencyTest.Lib.Shuffle
import LatencyTest.Lib.Bounded
import LatencyTest.Lib.Records
import LatencyTest.Lib.Rotation
import LatencyTest.Lib.Arguments
import LatencyTest.Lib.CommandLine
import LatencyTest.Lib.Padded
import LatencyTest.Lib.Fraction
import LatencyTest.Lib.Fields
import LatencyTest.Lib.Checked
import LatencyTest.Lib.Blocks
import LatencyTest.Lib.Regex
import LatencyTest.Lib.Interpolation
import LatencyTest.Lib.Spans
import LatencyTest.Lib.Interactive
import LatencyTest.Lib.Calendar
import LatencyTest.Lib.Counters
import LatencyTest.Core.Task
import LatencyTest.Core.Parse
import LatencyTest.Core.Accepted
import LatencyTest.Core.Universe
import LatencyTest.Core.Parts
import LatencyTest.Core.Stages
import LatencyTest.Core.Grammar
import LatencyTest.Core.Print
import LatencyTest.Core.Wire
import LatencyTest.Core.SourceTime
import LatencyTest.Core.Selections
import LatencyTest.Core.Statistics
import LatencyTest.Server.Pools
import LatencyTest.Server.Publish
import LatencyTest.Server.Composition
import LatencyTest.Server.Publications
import LatencyTest.Server.Rotation
import LatencyTest.Server.History
import LatencyTest.Server.Framing
import LatencyTest.Server.Generator
import LatencyTest.Server.Lifecycle
import LatencyTest.Server.Cutover
import LatencyTest.Server.Deadlines
import LatencyTest.Server.Control
import LatencyTest.Client.Collector
import LatencyTest.Client.Publication
import LatencyTest.Client.Correlation
import LatencyTest.Client.Runs
import LatencyTest.Client.Accounting
import LatencyTest.Client.Grouping
import LatencyTest.Client.Batches
import LatencyTest.Client.Windows
import LatencyTest.Client.Conservation
import LatencyTest.Client.Session
import LatencyTest.Client.Evidence
import LatencyTest.Client.Integrity
import LatencyTest.Client.Entries
import LatencyTest.Client.Tracker
import LatencyTest.Client.Snapshots
import LatencyTest.Client.Progress
import LatencyTest.Client.Reports
import LatencyTest.Client.Phases
import LatencyTest.Client.Outcome
import LatencyTest.Delivery.Clients
import LatencyTest.Delivery.Calls
import LatencyTest.Delivery.Counts
import LatencyTest.Delivery.Delivered
import LatencyTest.Delivery.Outcome
import LatencyTest.Delivery.Completion
import LatencyTest.Link.Identity
import LatencyTest.Link.Warmup
import LatencyTest.Link.Snapshot
import LatencyTest.Link.Durations
import LatencyTest.Link.Symbols
import LatencyTest.Report.Files
import LatencyTest.Report.Csv
import LatencyTest.Report.Columns
import LatencyTest.Report.Profile
import LatencyTest.Report.Comparison
import LatencyTest.Report.Monitoring
import LatencyTest.Report.Timestamps
import LatencyTest.Report.Summary
import LatencyTest.Report.Readback
import LatencyTest.Report.Verdict
import LatencyTest.Report.TimeSeries
import LatencyTest.Runner.Suite
import LatencyTest.Runner.Split
import LatencyTest.Runner.Plan
import LatencyTest.Runner.Balance
import LatencyTest.Runner.Programs
import LatencyTest.Runner.MonitoringPeriod
import LatencyTest.Runner.Vectors
import LatencyTest.Runner.Launch
import LatencyTest.Runner.Quote
import LatencyTest.Runner.ChildProcess
import LatencyTest.Runner.Ownership
import LatencyTest.Runner.Execution
import LatencyTest.Runner.Manifest
import LatencyTest.Runner.Results
import LatencyTest.Runner.Completion
