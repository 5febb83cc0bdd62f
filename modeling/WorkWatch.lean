import WorkWatch.Client.Basic
import WorkWatch.Client.Network
import WorkWatch.Client.Search
import WorkWatch.CommandLine.Command
import WorkWatch.CommandLine.Option
import WorkWatch.CommandLine.Run
import WorkWatch.CommandLine.Session
import WorkWatch.Decimal.Binary
import WorkWatch.Decimal.Layout
import WorkWatch.Decimal.Nearest
import WorkWatch.Decimal.Read
import WorkWatch.Decimal.Shortest
import WorkWatch.Evaluation.Basic
import WorkWatch.Evaluation.Comparison
import WorkWatch.Expression.Basic
import WorkWatch.Expression.Parser
import WorkWatch.Expression.Term
import WorkWatch.Expression.Token
import WorkWatch.Failure.Basic
import WorkWatch.Failure.Reason
import WorkWatch.Fields
import WorkWatch.Json.Basic
import WorkWatch.Json.Encoding
import WorkWatch.Json.Reader
import WorkWatch.Json.Writer
import WorkWatch.Main
import WorkWatch.Net.Address
import WorkWatch.Net.Composition
import WorkWatch.Net.CompositionTable
import WorkWatch.Net.HostName
import WorkWatch.Net.Label
import WorkWatch.Net.LabelTable
import WorkWatch.Net.Punycode
import WorkWatch.Net.Status
import WorkWatch.Net.Url
import WorkWatch.Recording
import WorkWatch.Report.Describe
import WorkWatch.Report.Document
import WorkWatch.Report.Selection
import WorkWatch.Report.Watch
import WorkWatch.Results.Document
import WorkWatch.Results.Folder
import WorkWatch.Results.Sink
import WorkWatch.Script
import WorkWatch.Settings.Basic
import WorkWatch.Settings.Duration
import WorkWatch.Settings.Endpoint
import WorkWatch.Text.Blank
import WorkWatch.Text.Case
import WorkWatch.Text.CaseTable
import WorkWatch.Text.Control
import WorkWatch.Text.DigitTable
import WorkWatch.Text.Digits
import WorkWatch.Text.Pattern
import WorkWatch.Text.PrintableTable
import WorkWatch.Text.Quoted
import WorkWatch.Text.Similar
import WorkWatch.Text.Split
import WorkWatch.Time.Calendar
import WorkWatch.Time.Clock
import WorkWatch.Time.Rfc3339
import WorkWatch.Wait.Backoff
import WorkWatch.Wait.Clock
import WorkWatch.Wait.Note
import WorkWatch.Wait.Poll
import WorkWatch.Wait.Tally
import WorkWatch.Wait.Timescale
import WorkWatch.Work.Condition
import WorkWatch.Work.Feedback
import WorkWatch.Work.Resource
import WorkWatch.Work.Snapshot
import WorkWatch.Yaml.Block
import WorkWatch.Yaml.Resolve
import WorkWatch.Yaml.Scalar
import WorkWatch.Proofs.Except
import WorkWatch.Proofs.Double.Rounded
import WorkWatch.Proofs.Double.Arithmetic
import WorkWatch.Proofs.Double.Binary
import WorkWatch.Proofs.Double.Product
import WorkWatch.Proofs.Wait.Poll
import WorkWatch.Proofs.Wait.Turn
import WorkWatch.Proofs.Wait.Alarms
import WorkWatch.Proofs.Wait.Deadline
import WorkWatch.Proofs.Wait.Account
import WorkWatch.Proofs.Evaluation.Value
import WorkWatch.Proofs.Evaluation.Silent
import WorkWatch.Proofs.Evaluation.Resources
import WorkWatch.Proofs.Work.Bundle
import WorkWatch.Proofs.Settings.Valid
import WorkWatch.Proofs.Settings.Polling
import WorkWatch.Proofs.Settings.Precedence
import WorkWatch.Proofs.Double.Integer
import WorkWatch.Proofs.Evaluation.Oversized
import WorkWatch.Proofs.Wait.Streak
import WorkWatch.Proofs.Expression.Grammar
import WorkWatch.Proofs.Expression.Parser
import WorkWatch.Proofs.Expression.Token
import WorkWatch.Proofs.Expression.Nesting
import WorkWatch.Proofs.Expression.Written
import WorkWatch.Proofs.Evaluation.Joined
import WorkWatch.Proofs.Wait.Bound
import WorkWatch.Proofs.Wait.Deletion
import WorkWatch.Proofs.Wait.Indifference
import WorkWatch.Proofs.Client.Replies
import WorkWatch.Proofs.CommandLine.Polling
import WorkWatch.Proofs.CommandLine.Deletion
import WorkWatch.Proofs.CommandLine.Steps
import WorkWatch.Proofs.CommandLine.Wait
import WorkWatch.Proofs.Net.Path
import WorkWatch.Proofs.Net.Item
import WorkWatch.Proofs.Net.Form
import WorkWatch.Proofs.Client.Deletion
import WorkWatch.Proofs.Client.Lookup
import WorkWatch.Proofs.Client.Search
import WorkWatch.Proofs.CommandLine.Trace
import WorkWatch.Proofs.CommandLine.WaitTrace
import WorkWatch.Proofs.Text.Messages
import WorkWatch.Proofs.CommandLine.Failures
import WorkWatch.Proofs.CommandLine.Reading
import WorkWatch.Proofs.CommandLine.Readers
import WorkWatch.Proofs.CommandLine.Removal
import WorkWatch.Proofs.CommandLine.Erasure
import WorkWatch.Proofs.Text.Control
import WorkWatch.Proofs.CommandLine.Course
import WorkWatch.Proofs.CommandLine.Errors
import WorkWatch.Proofs.CommandLine.Race
import WorkWatch.Proofs.CommandLine.Configuration
import WorkWatch.Proofs.Evaluation.Depth
import WorkWatch.Proofs.Double.Scaling
import WorkWatch.Proofs.Wait.Backoff
import WorkWatch.Proofs.Client.Names
import WorkWatch.Proofs.Text.Digits
import WorkWatch.Proofs.Time.Calendar
import WorkWatch.Proofs.Time.Written
import WorkWatch.Proofs.Time.Instant
import WorkWatch.Proofs.Time.Normal
import WorkWatch.Proofs.Evaluation.Freshness
import WorkWatch.Proofs.Wait.Tally
import WorkWatch.Proofs.Expression.Spelled
import WorkWatch.Proofs.Expression.NormalForm
import WorkWatch.Proofs.Json.Sorted
import WorkWatch.Proofs.Json.Strings
import WorkWatch.Proofs.Json.Compact
import WorkWatch.Proofs.Evaluation.Equality
import WorkWatch.Proofs.Double.Rank
import WorkWatch.Proofs.Double.Nearest
import WorkWatch.Proofs.Double.Whole
import WorkWatch.Proofs.Decimal.Point
import WorkWatch.Proofs.Decimal.Shortest
import WorkWatch.Proofs.Decimal.Read
import WorkWatch.Proofs.Decimal.RoundTrip
import WorkWatch.Proofs.Evaluation.Integers
import WorkWatch.Proofs.Evaluation.Shown
import WorkWatch.Proofs.Work.Fragments
import WorkWatch.Proofs.Work.Feedback
import WorkWatch.Proofs.Report.Watch
import WorkWatch.Proofs.Report.Selection
import WorkWatch.Proofs.Results.Calls
import WorkWatch.Proofs.Report.Description
import WorkWatch.Proofs.Json.Standard
import WorkWatch.Proofs.Json.Numerals
import WorkWatch.Proofs.Json.Finite
import WorkWatch.Proofs.Results.Document
import WorkWatch.Proofs.Wait.Versions
import WorkWatch.Proofs.Expression.Unexpected
import WorkWatch.Proofs.Settings.Usable
import WorkWatch.Proofs.Decimal.Script
import WorkWatch.Proofs.Settings.Duration
