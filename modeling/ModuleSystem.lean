import ModuleSystem.Cache.Basic
import ModuleSystem.Cache.Entry
import ModuleSystem.Cache.Plan
import ModuleSystem.Calendar
import ModuleSystem.CommandLine.Arguments
import ModuleSystem.CommandLine.Basic
import ModuleSystem.Datum.Basic
import ModuleSystem.Datum.Coerce
import ModuleSystem.Datum.Layout
import ModuleSystem.Datum.Order
import ModuleSystem.Datum.Text
import ModuleSystem.Decimal.Binary64
import ModuleSystem.Decimal.Literal
import ModuleSystem.Decimal.Shortest
import ModuleSystem.Document
import ModuleSystem.Evaluators
import ModuleSystem.Fault.Basic
import ModuleSystem.Fault.Kind
import ModuleSystem.Fault.Text
import ModuleSystem.FileTree
import ModuleSystem.Host
import ModuleSystem.Http
import ModuleSystem.Identifier
import ModuleSystem.Json
import ModuleSystem.Loader.Basic
import ModuleSystem.Loader.Probe
import ModuleSystem.Main
import ModuleSystem.Ordered
import ModuleSystem.Outcome
import ModuleSystem.Path.Basic
import ModuleSystem.Path.Name
import ModuleSystem.Process
import ModuleSystem.Registry
import ModuleSystem.Report
import ModuleSystem.Require
import ModuleSystem.Resolve
import ModuleSystem.Script.Basic
import ModuleSystem.Script.Member
import ModuleSystem.Script.Operation
import ModuleSystem.Script.Reader
import ModuleSystem.Script.Run
import ModuleSystem.Script.Token
import ModuleSystem.Session
import ModuleSystem.Settings
import ModuleSystem.Text.Blank
import ModuleSystem.Text.Charset
import ModuleSystem.Text.Charset.Utf16
import ModuleSystem.Text.Charset.Utf8
import ModuleSystem.Text.ContentType
import ModuleSystem.Text.Digit
import ModuleSystem.Text.LowerCase
import ModuleSystem.Text.Name
import ModuleSystem.Text.Printable
import ModuleSystem.Text.Quoted
import ModuleSystem.Text.Ranges
import ModuleSystem.Toml
import ModuleSystem.Value
import ModuleSystem.Value.Equality
import ModuleSystem.Value.Text
import ModuleSystem.World
import ModuleSystem.Xml.DocumentType
import ModuleSystem.Xml.Element
import ModuleSystem.Xml.Markup
import ModuleSystem.Xml.Name
import ModuleSystem.Xml.Value
import ModuleSystem.Yaml.Document
import ModuleSystem.Yaml.Lexer
import ModuleSystem.Yaml.Node
import ModuleSystem.Yaml.Scalar
import ModuleSystem.Yaml.Schema
import ModuleSystem.Yaml.Token
import ModuleSystem.Proofs.Action
import ModuleSystem.Proofs.Run.Basic
import ModuleSystem.Proofs.Run.Host
import ModuleSystem.Proofs.Walk.Value
import ModuleSystem.Proofs.Run.Operation
import ModuleSystem.Proofs.Scope.Basic
import ModuleSystem.Proofs.Walk.Action
import ModuleSystem.Proofs.Walk.Change
import ModuleSystem.Proofs.Walk.Basic
import ModuleSystem.Proofs.Walk.Member
import ModuleSystem.Proofs.Walk.Operation
import ModuleSystem.Proofs.Walk.Script
import ModuleSystem.Proofs.Run.Script
import ModuleSystem.Proofs.Source
import ModuleSystem.Proofs.Trace.Basic
import ModuleSystem.Proofs.Trace.Entry
import ModuleSystem.Proofs.Trace.Exports
import ModuleSystem.Proofs.Trace.Run
import ModuleSystem.Proofs.Trace.Settled
import ModuleSystem.Proofs.Run.Load
import ModuleSystem.Proofs.Path
import ModuleSystem.Proofs.Origin
import ModuleSystem.Proofs.Request
import ModuleSystem.Proofs.Run.Require
import ModuleSystem.Proofs.Task
import ModuleSystem.Proofs.Nesting
import ModuleSystem.Proofs.Pending
import ModuleSystem.Proofs.Evaluation
import ModuleSystem.Proofs.LiveExports
import ModuleSystem.Proofs.Memo
import ModuleSystem.Proofs.Step.Basic
import ModuleSystem.Proofs.Step.Record
import ModuleSystem.Proofs.Step.Clean
import ModuleSystem.Proofs.Step.Stride
import ModuleSystem.Proofs.Step.Watch
import ModuleSystem.Proofs.Step.Host
import ModuleSystem.Proofs.Step.Move
import ModuleSystem.Proofs.Step.Operation
import ModuleSystem.Proofs.Step.Load
import ModuleSystem.Proofs.Step.Require
import ModuleSystem.Proofs.Reachable
import ModuleSystem.Proofs.Agreement
import ModuleSystem.Proofs.Untouched
import ModuleSystem.Proofs.Keys
import ModuleSystem.Proofs.Failures
import ModuleSystem.Proofs.FileTree
import ModuleSystem.Proofs.FileLoader
import ModuleSystem.Proofs.Created
import ModuleSystem.Proofs.FileKeys
import ModuleSystem.Proofs.Utf8
import ModuleSystem.Proofs.Mirror
import ModuleSystem.Proofs.TreeOfTable
import ModuleSystem.Proofs.MemoryLoader
import ModuleSystem.Proofs.Address
import ModuleSystem.Proofs.Readback
import ModuleSystem.Proofs.Prediction
import ModuleSystem.Proofs.Remote
import ModuleSystem.Proofs.Records
import ModuleSystem.Proofs.Family
import ModuleSystem.Proofs.LocalPath
import ModuleSystem.Proofs.Reading
import ModuleSystem.Proofs.Spelling
import ModuleSystem.Proofs.Binary64
import ModuleSystem.Proofs.Retry
import ModuleSystem.Proofs.Settings
import ModuleSystem.Proofs.SearchPath
import ModuleSystem.Proofs.MainFile
import ModuleSystem.Proofs.MainRecord
import ModuleSystem.Proofs.SharedCache
import ModuleSystem.Proofs.Location
import ModuleSystem.Proofs.Charset
import ModuleSystem.Proofs.ContentType
import ModuleSystem.Proofs.Layout
import ModuleSystem.Proofs.Scope.Operation
import ModuleSystem.Proofs.Scope.Request
import ModuleSystem.Proofs.Composition
