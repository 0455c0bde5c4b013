import AggregateStage.Accumulator
import AggregateStage.Binary64
import AggregateStage.Broker.Client
import AggregateStage.Broker.Request
import AggregateStage.Call.Ingestion
import AggregateStage.Call.Run
import AggregateStage.Call.State
import AggregateStage.CommandLine
import AggregateStage.CommandLine.Arguments
import AggregateStage.CommandLine.Flag
import AggregateStage.Decimal.Digits
import AggregateStage.Decimal.Fixed
import AggregateStage.Decimal.Notation
import AggregateStage.Decimal.Numeral
import AggregateStage.Decimal.Shortest
import AggregateStage.Environment
import AggregateStage.Event
import AggregateStage.Json.Fault
import AggregateStage.Json.Lexeme
import AggregateStage.Json.Number
import AggregateStage.Json.Quoted
import AggregateStage.Json.Skip
import AggregateStage.Log
import AggregateStage.Log.Layout
import AggregateStage.LogFilter
import AggregateStage.Main
import AggregateStage.Message
import AggregateStage.Metrics.Duration
import AggregateStage.Metrics.Record
import AggregateStage.Metrics.Summary
import AggregateStage.Net.Address
import AggregateStage.Net.Host
import AggregateStage.Net.Url
import AggregateStage.Program.Run
import AggregateStage.Program.State
import AggregateStage.Program.Step
import AggregateStage.Server.Run
import AggregateStage.Server.State
import AggregateStage.Service
import AggregateStage.Settings
import AggregateStage.Settings.Typed
import AggregateStage.Settings.Value
import AggregateStage.Settings.Variable
import AggregateStage.Status
import AggregateStage.Text.Class
import AggregateStage.Text.Escaped
import AggregateStage.Text.Hex
import AggregateStage.Text.Quoted
import AggregateStage.Text.Size
import AggregateStage.Toml.Lexeme
import AggregateStage.Toml.Node
import AggregateStage.Toml.Number
import AggregateStage.Toml.Reader
import AggregateStage.Wire.Field
import AggregateStage.Wire.Frame
import AggregateStage.Wire.Percent
import AggregateStage.Wire.Pipeline
import AggregateStage.Wire.Varint
import AggregateStage.Watch
import AggregateStage.WorkItem.Payload
import AggregateStage.WorkItem.Reader
import AggregateStage.WorkItem.Scored
import AggregateStage.Proofs.Totals
import AggregateStage.Proofs.Flush
import AggregateStage.Proofs.Call.Step
import AggregateStage.Proofs.Call.Delivery
import AggregateStage.Proofs.Call.Progress
import AggregateStage.Proofs.Call.Agreement
import AggregateStage.Proofs.Call.Timing
import AggregateStage.Proofs.Call.Lockstep
import AggregateStage.Proofs.Call.Noninterference
import AggregateStage.Proofs.Call.Accounting
import AggregateStage.Proofs.Json.Grammar
import AggregateStage.Proofs.Json.Lexeme
import AggregateStage.Proofs.Json.Numeral
import AggregateStage.Proofs.Json.Skip
import AggregateStage.Proofs.WorkItem.Meaning
import AggregateStage.Proofs.WorkItem.Reading
import AggregateStage.Proofs.Json.Extent
import AggregateStage.Proofs.WorkItem.Acceptance
import AggregateStage.Proofs.WorkItem.WellFormed
import AggregateStage.Proofs.WorkItem.Decode
import AggregateStage.Proofs.WorkItem.Identifier
import AggregateStage.Proofs.Program.Step
import AggregateStage.Proofs.Program.Invariant
import AggregateStage.Proofs.Program.Withdrawal
import AggregateStage.Proofs.Program.Independence
import AggregateStage.Proofs.Server.LifeCycle
import AggregateStage.Proofs.Metrics.Exactness
import AggregateStage.Proofs.Metrics.Closing
import AggregateStage.Proofs.Program.Endpoint
import AggregateStage.Proofs.Settings.Distinct
import AggregateStage.Proofs.Settings.Key
import AggregateStage.Proofs.Settings.Overlay
import AggregateStage.Proofs.Settings.Variable
import AggregateStage.Proofs.Settings.Layers
import AggregateStage.Proofs.WorkItem.ClosedForm
import AggregateStage.Proofs.Binary64.Fields
import AggregateStage.Proofs.Binary64.Nearest
import AggregateStage.Proofs.WorkItem.Rounding
import AggregateStage.Proofs.Settings.Literal
import AggregateStage.Proofs.Settings.Misfit
import AggregateStage.Proofs.Settings.Verbatim
import AggregateStage.Proofs.Binary64.Rounding
import AggregateStage.Proofs.Binary64.Operations
import AggregateStage.Proofs.Decimal.Identification
import AggregateStage.Proofs.Json.Precision
import AggregateStage.Proofs.Json.Significand
import AggregateStage.Proofs.Json.Printing
import AggregateStage.Proofs.WorkItem.Doubles
