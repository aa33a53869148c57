import Retrace.Cache
import Retrace.Disk.Basic
import Retrace.Disk.Errno
import Retrace.Failure
import Retrace.Frame.Basic
import Retrace.Frame.Line
import Retrace.Frame.Record
import Retrace.Frame.Stack
import Retrace.Journal.Basic
import Retrace.Journal.Event
import Retrace.Json.Basic
import Retrace.Json.Parser
import Retrace.Log.Basic
import Retrace.Log.Directive
import Retrace.Log.Pattern
import Retrace.Loop.Basic
import Retrace.Number.Arithmetic
import Retrace.Number.Binary64
import Retrace.Number.Literal
import Retrace.Number.Numeral
import Retrace.Number.Places
import Retrace.Number.Shortest
import Retrace.Number.Written
import Retrace.Path.Basic
import Retrace.Path.Local
import Retrace.Path.Served
import Retrace.Pool.Basic
import Retrace.Pool.Course
import Retrace.Proofs.Frame.Basic
import Retrace.Proofs.Frame.Stack
import Retrace.Proofs.Outcome
import Retrace.Proofs.Path
import Retrace.Proofs.Pool
import Retrace.Proofs.Resolver.Hazard
import Retrace.Proofs.Resolver.History
import Retrace.Proofs.Resolver.Resolution
import Retrace.Proofs.Resolver.Symbolication
import Retrace.Proofs.Script
import Retrace.Proofs.Settings
import Retrace.Proofs.SourceMap.Locate
import Retrace.Proofs.SourceMap.Lookup
import Retrace.Proofs.SourceMap.Mappings
import Retrace.Proofs.SourceMap.Payload
import Retrace.Proofs.SourceMap.Reference
import Retrace.Proofs.SourceMap.Served
import Retrace.Proofs.Text.Base64
import Retrace.Proofs.Text.Percent
import Retrace.Proofs.Text.Pieces
import Retrace.Proofs.Text.Utf8
import Retrace.Proofs.Url
import Retrace.Report.Basic
import Retrace.Report.Deadline
import Retrace.Resolver.Basic
import Retrace.Resolver.Sharing
import Retrace.Resolver.Target
import Retrace.Resolver.Trace
import Retrace.Script
import Retrace.Settings.Basic
import Retrace.Settings.Complaint
import Retrace.Settings.Load
import Retrace.Settings.Section
import Retrace.Settings.Value
import Retrace.Settings.Variables
import Retrace.Snippet
import Retrace.SourceMap.Basic
import Retrace.SourceMap.Flaw
import Retrace.SourceMap.Mappings
import Retrace.SourceMap.Payload
import Retrace.SourceMap.Reference
import Retrace.SourceMap.Vlq
import Retrace.Task
import Retrace.Template
import Retrace.Text.Base64
import Retrace.Text.Basic
import Retrace.Text.Blank
import Retrace.Text.Case
import Retrace.Text.Digit
import Retrace.Text.Lines
import Retrace.Text.Percent
import Retrace.Text.Printable
import Retrace.Text.Quoted
import Retrace.Text.Utf8
import Retrace.Url.Basic
import Retrace.Url.Host
import Retrace.Yaml.Builder
import Retrace.Yaml.Cursor
import Retrace.Yaml.Datum
import Retrace.Yaml.Fault
import Retrace.Yaml.Kind
import Retrace.Yaml.Merge
import Retrace.Yaml.Moment
import Retrace.Yaml.Node
import Retrace.Yaml.Scalar
import Retrace.Yaml.Token
import Retrace.Yaml.Value
import Retrace.Proofs.Reads
import Retrace.Proofs.Resolver.Sharing
import Retrace.Proofs.Path.Confined
import Retrace.Proofs.Resolver.Window
import Retrace.Proofs.Traffic
import Retrace.Proofs.Frame.Line
import Retrace.Proofs.Text.Lines
import Retrace.Proofs.Frame.Printed
import Retrace.Proofs.SourceMap.Scan
import Retrace.Proofs.SourceMap.Vlq
import Retrace.Proofs.SourceMap.PrefixSums
import Retrace.Proofs.Resolver.Refusal
import Retrace.Proofs.SourceMap.Transport
import Retrace.Proofs.Path.Local
import Retrace.Proofs.Resolver.Stored
import Retrace.Proofs.SourceMap.Invariant
import Retrace.Proofs.Frame.Grammar
import Retrace.Proofs.SourceMap.Canonical
import Retrace.Proofs.SourceMap.LastReference
import Retrace.Proofs.SourceMap.Spelling
import Retrace.Proofs.Loop.Turn
import Retrace.Proofs.Loop.Sound
import Retrace.Proofs.Loop.Steady
import Retrace.Proofs.Loop.Measure
import Retrace.Proofs.Loop.Ledger
import Retrace.Proofs.Loop.Stages
import Retrace.Proofs.Loop.News
import Retrace.Proofs.Loop.Gather
import Retrace.Proofs.Loop.Eager
import Retrace.Proofs.Loop.Course
import Retrace.Proofs.Text.Lossy
import Retrace.Proofs.Template
import Retrace.Proofs.Frame.Record
import Retrace.Proofs.Journal
import Retrace.Proofs.Report
