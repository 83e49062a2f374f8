import EventTally.Api.Arrival
import EventTally.Api.Client
import EventTally.Api.Exchange
import EventTally.Base64
import EventTally.Certificate.Armour
import EventTally.Certificate.Basic
import EventTally.Certificate.Der
import EventTally.Certificate.Key
import EventTally.Certificate.Usable
import EventTally.CharSet
import EventTally.Cluster.Access
import EventTally.Cluster.Error
import EventTally.Cluster.Kubeconfig
import EventTally.Dialogue
import EventTally.Document
import EventTally.Exporter
import EventTally.File.Entry
import EventTally.File.Path
import EventTally.File.Tree
import EventTally.Json.Basic
import EventTally.Json.Printer
import EventTally.Json.Reader
import EventTally.Listen
import EventTally.Main
import EventTally.Metric.Counter
import EventTally.Metric.Exposition
import EventTally.Metric.Hash
import EventTally.Metric.Routes
import EventTally.Proofs.Counting
import EventTally.Proofs.Delivery
import EventTally.Proofs.Exporting
import EventTally.Proofs.Exposition
import EventTally.Proofs.Faithful
import EventTally.Proofs.Joining
import EventTally.Proofs.Lines
import EventTally.Proofs.Lookup
import EventTally.Proofs.Percent
import EventTally.Proofs.Tally
import EventTally.Proofs.Watching
import EventTally.Record.Change
import EventTally.Record.Event
import EventTally.Record.Fields
import EventTally.Record.Meta
import EventTally.Record.Pod
import EventTally.Record.View
import EventTally.Regex
import EventTally.Regex.Pattern
import EventTally.Regex.Program
import EventTally.Regex.Reader
import EventTally.Regex.Room
import EventTally.Regex.Search
import EventTally.Regex.Syntax
import EventTally.Router
import EventTally.Rule.Age
import EventTally.Rule.Compile
import EventTally.Rule.Definition
import EventTally.Rule.Evaluate
import EventTally.Rule.Label
import EventTally.Rule.Load
import EventTally.Settings
import EventTally.Startup.Arguments
import EventTally.Startup.Variables
import EventTally.StringMap
import EventTally.Text.Blank
import EventTally.Text.Hex
import EventTally.Text.Utf8
import EventTally.Time.Date
import EventTally.Time.Rfc3339
import EventTally.Time.Span
import EventTally.Time.Timestamp
import EventTally.Unicode.Age
import EventTally.Unicode.Break
import EventTally.Unicode.CaseOrbit
import EventTally.Unicode.Category
import EventTally.Unicode.Composition
import EventTally.Unicode.Direction
import EventTally.Unicode.DomainMap
import EventTally.Unicode.Property
import EventTally.Unicode.Script
import EventTally.Url.Basic
import EventTally.Url.Domain
import EventTally.Url.Host
import EventTally.Url.Percent
import EventTally.Url.Punycode
import EventTally.Url.Reader
import EventTally.Watch.Feed
import EventTally.Watch.Line
import EventTally.Yaml.Cursor
import EventTally.Yaml.Node
import EventTally.Yaml.Scalar
import EventTally.Yaml.Token
import EventTally.Yaml.Value
import EventTally.Proofs.Readings
import EventTally.Proofs.Resuming
import EventTally.Proofs.Answering
import EventTally.Proofs.Validation
import EventTally.Proofs.Emission
import EventTally.Proofs.Isolation
import EventTally.Proofs.Naming
import EventTally.Proofs.Nesting
import EventTally.Proofs.Characters
import EventTally.Proofs.Printing
import EventTally.Proofs.Instants
import EventTally.Proofs.Encoding
import EventTally.Proofs.Fetching
import EventTally.Proofs.Selection
import EventTally.Proofs.Evaluation
import EventTally.Proofs.Addressing
import EventTally.Proofs.SearchOrder
import EventTally.Proofs.Chunks
import EventTally.Proofs.Violations
import EventTally.Proofs.Amending
import EventTally.Proofs.Calendar
import EventTally.Proofs.Ageing
import EventTally.Proofs.Sextets
import EventTally.Proofs.Deciding
import EventTally.Proofs.Credentials
import EventTally.Proofs.Strictness
import EventTally.Proofs.Walking
import EventTally.Proofs.Labelling
