import CodeGraph.Agent.Context
import CodeGraph.Agent.State
import CodeGraph.Batch.Operation
import CodeGraph.Batch.Run
import CodeGraph.Cache.Basic
import CodeGraph.Cache.Eviction
import CodeGraph.Config
import CodeGraph.Decimal.Notation
import CodeGraph.Decimal.Shortest
import CodeGraph.Engine.Analysis
import CodeGraph.Engine.Basic
import CodeGraph.Engine.Command
import CodeGraph.Engine.Derived
import CodeGraph.Engine.Event
import CodeGraph.Engine.Handle
import CodeGraph.Engine.Health
import CodeGraph.Engine.Inbound
import CodeGraph.Engine.Profiler
import CodeGraph.Engine.Query
import CodeGraph.Engine.Worker
import CodeGraph.Error
import CodeGraph.ErrorReport.Basic
import CodeGraph.ErrorReport.Reference
import CodeGraph.Graph.Annotations
import CodeGraph.Graph.Change
import CodeGraph.Graph.Edge
import CodeGraph.Graph.Metrics
import CodeGraph.Graph.Node
import CodeGraph.Graph.Payload
import CodeGraph.Graph.Relationships
import CodeGraph.Graph.Store
import CodeGraph.Http.Body
import CodeGraph.Http.MediaType
import CodeGraph.Http.Request
import CodeGraph.Http.Serve
import CodeGraph.Http.Target
import CodeGraph.Inbound.Noted
import CodeGraph.Json.Basic
import CodeGraph.Json.Extent
import CodeGraph.Json.Literal
import CodeGraph.Json.Number
import CodeGraph.Json.Parser
import CodeGraph.Json.Printer
import CodeGraph.Network.Address
import CodeGraph.Project.Insights
import CodeGraph.Project.Path
import CodeGraph.Project.Structure
import CodeGraph.Query.Filter
import CodeGraph.Service.Basic
import CodeGraph.Service.Calls
import CodeGraph.Source.Analysis
import CodeGraph.Source.Line
import CodeGraph.Source.Measure
import CodeGraph.Source.Token
import CodeGraph.Text.Blank
import CodeGraph.Text.Lines
import CodeGraph.Text.Lower
import CodeGraph.Text.Natural
import CodeGraph.Text.Quoted
import CodeGraph.Text.Ranges
import CodeGraph.Text.Scan
import CodeGraph.Text.Word
import CodeGraph.Time.Basic
import CodeGraph.Time.Parser
import CodeGraph.Time.Printer
import CodeGraph.Transport.Basic
import CodeGraph.Transport.Log
import CodeGraph.Update.Analysis
import CodeGraph.Update.Content
import CodeGraph.Update.Dependencies
import CodeGraph.Wire.Reader
import CodeGraph.Wire.Record
import CodeGraph.Proofs.Graph.Edit
import CodeGraph.Proofs.Graph.Action
import CodeGraph.Proofs.Graph.WellFormed
import CodeGraph.Proofs.Graph.Figures
import CodeGraph.Proofs.Batch.Plan
import CodeGraph.Proofs.Batch.Trial
import CodeGraph.Proofs.Cache.Inherits
import CodeGraph.Proofs.Engine.Quiet
import CodeGraph.Proofs.Engine.Evolves
import CodeGraph.Proofs.Engine.Session
import CodeGraph.Proofs.Engine.DerivedCache
import CodeGraph.Proofs.Engine.Pending
import CodeGraph.Proofs.Engine.Awaited
import CodeGraph.Proofs.Graph.Timeless
import CodeGraph.Proofs.Engine.Advance
import CodeGraph.Proofs.Engine.BatchItems
import CodeGraph.Proofs.Engine.Worker
import CodeGraph.Proofs.Engine.WorkerOrder
import CodeGraph.Proofs.Number.Range
import CodeGraph.Proofs.Graph.Lookup
import CodeGraph.Proofs.Graph.Update
import CodeGraph.Proofs.Graph.Links
import CodeGraph.Proofs.Graph.Imports
import CodeGraph.Proofs.Graph.Parsing
import CodeGraph.Proofs.Graph.Valid
import CodeGraph.Proofs.Engine.Rejection
import CodeGraph.Proofs.Engine.Remembered
import CodeGraph.Proofs.Agent.Visibility
import CodeGraph.Proofs.Agent.Tracking
import CodeGraph.Proofs.Agent.Notification
import CodeGraph.Proofs.Graph.Comparison
import CodeGraph.Proofs.Graph.Replacement
import CodeGraph.Proofs.Graph.Reordering
import CodeGraph.Proofs.Graph.Merging
import CodeGraph.Proofs.Graph.Repeated
import CodeGraph.Proofs.Graph.EdgeMerging
import CodeGraph.Proofs.Engine.Announced
import CodeGraph.Proofs.Wire.Ordered
import CodeGraph.Proofs.Wire.Overlay
import CodeGraph.Proofs.Graph.Composition
import CodeGraph.Proofs.Cache.Sweep
import CodeGraph.Proofs.Cache.History
import CodeGraph.Proofs.Project.Paths
import CodeGraph.Proofs.Project.Contained
import CodeGraph.Proofs.Graph.Names
import CodeGraph.Proofs.Engine.Naming
import CodeGraph.Proofs.Time.Digits
import CodeGraph.Proofs.Time.Written
import CodeGraph.Proofs.Graph.Written
import CodeGraph.Proofs.Graph.Readable
import CodeGraph.Proofs.List.Newest
import CodeGraph.Proofs.Transport.Sent
import CodeGraph.Proofs.Transport.Polling
import CodeGraph.Proofs.Graph.HistoryLimit
import CodeGraph.Proofs.Profile.Sessions
import CodeGraph.Proofs.Engine.Recorded
import CodeGraph.Proofs.Wire.Records
import CodeGraph.Proofs.Number.Rounding
import CodeGraph.Proofs.Number.Magnitude
import CodeGraph.Proofs.Source.Counts
import CodeGraph.Proofs.Source.Measured
import CodeGraph.Proofs.Source.Ingested
import CodeGraph.Proofs.Graph.Outcome
import CodeGraph.Proofs.Number.Place
import CodeGraph.Proofs.List.Ranked
import CodeGraph.Proofs.Cache.Insertion
import CodeGraph.Proofs.Graph.Agreement
import CodeGraph.Proofs.Graph.Traces
import CodeGraph.Proofs.Cache.Selection
import CodeGraph.Proofs.Text.Segments
import CodeGraph.Proofs.Project.Resolution
import CodeGraph.Proofs.Project.Canonical
import CodeGraph.Proofs.Project.Dependencies
import CodeGraph.Proofs.Agent.Reach
import CodeGraph.Proofs.Agent.Widening
import CodeGraph.Proofs.Project.Malformed
import CodeGraph.Proofs.ErrorReport.Paths
import CodeGraph.Proofs.ErrorReport.Affected
import CodeGraph.Proofs.Graph.Accumulated
import CodeGraph.Proofs.Engine.Finite
import CodeGraph.Proofs.Engine.Redelivery
import CodeGraph.Proofs.Engine.Landing
import CodeGraph.Proofs.Agent.Audience
import CodeGraph.Proofs.Graph.Reported
import CodeGraph.Proofs.Source.Rewording
import CodeGraph.Proofs.Project.Hotspots
import CodeGraph.Proofs.Transport.Resuming
