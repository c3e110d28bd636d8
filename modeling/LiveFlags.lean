import LiveFlags.Json.Printer
import LiveFlags.Text.Quoted
import LiveFlags.Time.Rfc3339
import LiveFlags.Json.Literal
import LiveFlags.Json.Skip
import LiveFlags.Json.Record
import LiveFlags.Snapshot
import LiveFlags.Identity
import LiveFlags.Error.Source
import LiveFlags.Error.Storage
import LiveFlags.Url.Host
import LiveFlags.Url.Basic
import LiveFlags.Options
import LiveFlags.Source.Backoff
import LiveFlags.Source.Context
import LiveFlags.Source.Event
import LiveFlags.Http.EventStream
import LiveFlags.Http.Exchange
import LiveFlags.ItemStore
import LiveFlags.Notifier
import LiveFlags.Status
import LiveFlags.Storage.Memory
import LiveFlags.Storage.Monitored
import LiveFlags.Storage.Files
import LiveFlags.FlagData
import LiveFlags.Source.TestFlags
import LiveFlags.Source.Polling
import LiveFlags.Source.Streaming
import LiveFlags.Source.Lifecycle
import LiveFlags.Connection.Basic
import LiveFlags.Simulation.Client
import LiveFlags.Proofs.Status
import LiveFlags.Proofs.FlagData.Steps
import LiveFlags.Proofs.Connection.Frame
import LiveFlags.Proofs.Connection.Traffic
import LiveFlags.Proofs.Connection.SingleSource
import LiveFlags.Proofs.Connection.Settled
import LiveFlags.Proofs.Connection.Offline
import LiveFlags.Proofs.Connection.Failure
import LiveFlags.Proofs.Change
import LiveFlags.Proofs.ItemStore
import LiveFlags.Proofs.Convergence
import LiveFlags.Proofs.Json.Reader
import LiveFlags.Proofs.Json.Leaves
import LiveFlags.Proofs.Json.Shape
import LiveFlags.Proofs.Json.RoundTrip
import LiveFlags.Proofs.Json.Yields
import LiveFlags.Proofs.Json.Record
import LiveFlags.Proofs.Mirror
import LiveFlags.Proofs.Item
import LiveFlags.Proofs.Snapshot
import LiveFlags.Proofs.Storage
import LiveFlags.Proofs.Cache.Reliable
import LiveFlags.Proofs.Cache.Recency
import LiveFlags.Proofs.FlagData.Report
import LiveFlags.Proofs.Event
import LiveFlags.Proofs.FlagData.Durable
import LiveFlags.Proofs.Cache.Separation
import LiveFlags.Proofs.FlagData.Isolation
import LiveFlags.Proofs.Connection.Answers
import LiveFlags.Proofs.Connection.Outcome
import LiveFlags.Proofs.Json.Depth
import LiveFlags.Proofs.WireForm
import LiveFlags.Proofs.Faulty
import LiveFlags.Proofs.Cache.Faulty
import LiveFlags.Proofs.Cache.Contained
import LiveFlags.Proofs.Cache.Capacity
import LiveFlags.Proofs.FlagData.Integrity
import LiveFlags.Proofs.Connection.Closed
import LiveFlags.Proofs.Number.Nearest
import LiveFlags.Proofs.Source.Backoff
import LiveFlags.Proofs.Source.Worker
import LiveFlags.Proofs.Source.Streaming
import LiveFlags.Proofs.Source.Outcome
import LiveFlags.Proofs.Source.FirstData
import LiveFlags.Proofs.Connection.Operation
import LiveFlags.Proofs.Connection.Initializing
import LiveFlags.Proofs.Source.TestFlags
import LiveFlags.Proofs.Source.TestBench
import LiveFlags.Proofs.Text.Utf8
import LiveFlags.Proofs.Storage.FileName
import LiveFlags.Proofs.Storage.SafeName
import LiveFlags.Proofs.Storage.FileSystem
import LiveFlags.Proofs.Storage.Calls
import LiveFlags.Proofs.Storage.Write
import LiveFlags.Proofs.Storage.Agreement
import LiveFlags.Proofs.Storage.Crash
import LiveFlags.Proofs.Connection.FreshStart
import LiveFlags.Proofs.FlagData.Overlap
import LiveFlags.Proofs.FlagData.LastSave
import LiveFlags.Proofs.FlagData.LastTold
import LiveFlags.Proofs.Views
import LiveFlags.Proofs.Redaction.Pattern
import LiveFlags.Proofs.Text.CharClass
import LiveFlags.Proofs.Redaction.Pieces
import LiveFlags.Proofs.Redaction.Rewritten
import LiveFlags.Proofs.Redaction.Boundary
import LiveFlags.Proofs.Redaction.Credentials
import LiveFlags.Proofs.Redaction.Complete
import LiveFlags.Proofs.StatusHistory
import LiveFlags.Proofs.History
import LiveFlags.Proofs.Dispatch.Courier
import LiveFlags.Proofs.Dispatch.Delivery
import LiveFlags.Proofs.Dispatch.Observer
import LiveFlags.Proofs.Source.Polling
import LiveFlags.Proofs.Source.Site
import LiveFlags.Proofs.Source.Disposal
import LiveFlags.Proofs.Error.Recovery
import LiveFlags.Proofs.Source.Delays
import LiveFlags.Proofs.Source.Pacing
import LiveFlags.Proofs.Cache.Sharing
