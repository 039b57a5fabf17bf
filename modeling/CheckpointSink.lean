import CheckpointSink.Barrier
import CheckpointSink.Completion
import CheckpointSink.Console
import CheckpointSink.Delivery.Handle
import CheckpointSink.Delivery.Message
import CheckpointSink.Delivery.Result
import CheckpointSink.Demo.DelayedService
import CheckpointSink.Demo.Load
import CheckpointSink.Demo.Printer
import CheckpointSink.Event
import CheckpointSink.Fields
import CheckpointSink.Json.Reader
import CheckpointSink.Json.Value
import CheckpointSink.Json.Writer
import CheckpointSink.Number.Binary64
import CheckpointSink.Number.Decimal
import CheckpointSink.Number.FloatText
import CheckpointSink.Number.Integer
import CheckpointSink.Number.Layout
import CheckpointSink.Number.Shortest
import CheckpointSink.Options.Environment
import CheckpointSink.Options.Key
import CheckpointSink.Options.Properties
import CheckpointSink.Options.Settings
import CheckpointSink.Pending
import CheckpointSink.Record.Log
import CheckpointSink.Record.Request
import CheckpointSink.Record.Text
import CheckpointSink.Routing.Partitioner
import CheckpointSink.Routing.Shard
import CheckpointSink.Schema.Element
import CheckpointSink.Schema.Flattening
import CheckpointSink.Session.Client
import CheckpointSink.Session.Script
import CheckpointSink.Session.Sink
import CheckpointSink.Settlement.Ledger
import CheckpointSink.Settlement.Script
import CheckpointSink.Settlement.Timeline
import CheckpointSink.Settlement.Worker
import CheckpointSink.Sleep
import CheckpointSink.Text.Blank
import CheckpointSink.Text.Printable
import CheckpointSink.Text.Quoted
import CheckpointSink.Proofs.Settlement.History
import CheckpointSink.Proofs.Settlement.Whereabouts
import CheckpointSink.Proofs.Settlement.Exactness
import CheckpointSink.Proofs.Settlement.Rest
import CheckpointSink.Proofs.Polling
import CheckpointSink.Proofs.Session.Conduct
import CheckpointSink.Proofs.Session.Count
import CheckpointSink.Proofs.Session.Timing
import CheckpointSink.Proofs.Settlement.Checkpoint
import CheckpointSink.Proofs.Settlement.Paths
import CheckpointSink.Proofs.Settlement.Stop
import CheckpointSink.Proofs.Session.Lifecycle
import CheckpointSink.Proofs.Session.Submission
import CheckpointSink.Proofs.Options.Environment
import CheckpointSink.Proofs.Session.Secrecy
import CheckpointSink.Proofs.Session.Futility
import CheckpointSink.Proofs.Session.Discarding
import CheckpointSink.Proofs.Pending.Interleaving
import CheckpointSink.Proofs.Delivery.Handle
import CheckpointSink.Proofs.Record.Decoding
import CheckpointSink.Proofs.Options.Validity
import CheckpointSink.Proofs.Waiting
import CheckpointSink.Proofs.Session.Closing
import CheckpointSink.Proofs.Number.Hexadecimal
import CheckpointSink.Proofs.Routing.Slices
import CheckpointSink.Proofs.Options.Writing
import CheckpointSink.Proofs.Schema.Flattening
import CheckpointSink.Proofs.Tuning
import CheckpointSink.Proofs.Pending.Sharing
import CheckpointSink.Proofs.Reporting
import CheckpointSink.Proofs.Schema.Restoring
import CheckpointSink.Proofs.Record.Items
