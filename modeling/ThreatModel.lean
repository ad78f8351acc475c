import ThreatModel.Catalogue
import ThreatModel.Catalogue.Format
import ThreatModel.Catalogue.Library
import ThreatModel.CommandLine
import ThreatModel.CommandLine.Arguments
import ThreatModel.CommandLine.Run
import ThreatModel.Config
import ThreatModel.Config.Format
import ThreatModel.Config.Lookup
import ThreatModel.Config.Template
import ThreatModel.Dataflow
import ThreatModel.Document
import ThreatModel.Document.Coverage
import ThreatModel.Document.Format
import ThreatModel.Document.Outline
import ThreatModel.Document.References
import ThreatModel.Document.Summary
import ThreatModel.Document.Validation
import ThreatModel.Element
import ThreatModel.Entry
import ThreatModel.FileTree
import ThreatModel.Glob
import ThreatModel.Glob.Format
import ThreatModel.Identifier
import ThreatModel.Indexed
import ThreatModel.Indexed.Format
import ThreatModel.Indexed.Indexer
import ThreatModel.Indexed.Integrity
import ThreatModel.Indexed.Numbering
import ThreatModel.Json
import ThreatModel.Json.Equality
import ThreatModel.Json.Printer
import ThreatModel.Json.Record
import ThreatModel.Json.Written
import ThreatModel.Main
import ThreatModel.Number.Binary64
import ThreatModel.Number.Shortest
import ThreatModel.Number.Width
import ThreatModel.OpenApi
import ThreatModel.Path
import ThreatModel.Pointer
import ThreatModel.Proofs.Catalogue.Clusters
import ThreatModel.Proofs.Catalogue.Descriptions
import ThreatModel.Proofs.Catalogue.Format
import ThreatModel.Proofs.Catalogue.Hierarchy
import ThreatModel.Proofs.Catalogue.Identifiers
import ThreatModel.Proofs.Catalogue.References
import ThreatModel.Proofs.Catalogue.Threats
import ThreatModel.Proofs.Dataflow
import ThreatModel.Proofs.Dataflow.History
import ThreatModel.Proofs.Document.Conformance
import ThreatModel.Proofs.Document.Coverage
import ThreatModel.Proofs.Document.Format
import ThreatModel.Proofs.Document.Grouping
import ThreatModel.Proofs.Document.Hierarchy
import ThreatModel.Proofs.Document.Merge
import ThreatModel.Proofs.Document.Outline
import ThreatModel.Proofs.Document.Reading
import ThreatModel.Proofs.Document.References
import ThreatModel.Proofs.Document.Relaxation
import ThreatModel.Proofs.Document.Uses
import ThreatModel.Proofs.Document.Validation
import ThreatModel.Proofs.Identifier
import ThreatModel.Proofs.Identifier.Scan
import ThreatModel.Proofs.Identifier.Spacing
import ThreatModel.Proofs.Indexed.Dangling
import ThreatModel.Proofs.Indexed.Declared
import ThreatModel.Proofs.Indexed.Format
import ThreatModel.Proofs.Indexed.Indexer
import ThreatModel.Proofs.Indexed.Integrity
import ThreatModel.Proofs.Indexed.Numbering
import ThreatModel.Proofs.Json.Agreement
import ThreatModel.Proofs.Json.Clash
import ThreatModel.Proofs.Json.Printer
import ThreatModel.Proofs.Json.Record
import ThreatModel.Proofs.Json.Spelling
import ThreatModel.Proofs.Json.WellFormed
import ThreatModel.Proofs.OpenApi
import ThreatModel.Proofs.Pointer
import ThreatModel.Proofs.Registry.Accounting
import ThreatModel.Proofs.Registry.Batch
import ThreatModel.Proofs.Registry.Blank
import ThreatModel.Proofs.Registry.Changes
import ThreatModel.Proofs.Registry.Conformance
import ThreatModel.Proofs.Registry.Contents
import ThreatModel.Proofs.Registry.Entries
import ThreatModel.Proofs.Registry.Extension
import ThreatModel.Proofs.Registry.Failure
import ThreatModel.Proofs.Registry.FirstFailure
import ThreatModel.Proofs.Registry.Implicit
import ThreatModel.Proofs.Registry.Joined
import ThreatModel.Proofs.Registry.Libraries
import ThreatModel.Proofs.Registry.Precedence
import ThreatModel.Proofs.Registry.Recorded
import ThreatModel.Proofs.Registry.Recording
import ThreatModel.Proofs.Registry.Reference
import ThreatModel.Proofs.Registry.Registrations
import ThreatModel.Proofs.Registry.Uniform
import ThreatModel.Proofs.Schema.Acceptance
import ThreatModel.Proofs.Schema.Reading
import ThreatModel.Proofs.SortedMap.Lists
import ThreatModel.Proofs.Tag.Blocks
import ThreatModel.Proofs.Tag.Comment
import ThreatModel.Proofs.Tag.Found
import ThreatModel.Proofs.Tag.Grammar
import ThreatModel.Proofs.Tag.Group
import ThreatModel.Proofs.Tag.Lines
import ThreatModel.Proofs.Tag.Markers
import ThreatModel.Proofs.Tag.Names
import ThreatModel.Proofs.Tag.Opening
import ThreatModel.Proofs.Tag.Quoting
import ThreatModel.Proofs.Tag.Refs
import ThreatModel.Proofs.Tag.Statement
import ThreatModel.Proofs.Tag.Subject
import ThreatModel.Proofs.Tag.ThreatWord
import ThreatModel.Proofs.Tag.Wrapping
import ThreatModel.Proofs.Text.Decimal
import ThreatModel.Proofs.Text.Spacing
import ThreatModel.Proofs.Text.Trim
import ThreatModel.Proofs.Text.WordPattern
import ThreatModel.Proofs.Yaml.Part
import ThreatModel.Registry
import ThreatModel.Registry.Apply
import ThreatModel.Registry.Error
import ThreatModel.Registry.Exchange
import ThreatModel.Scan
import ThreatModel.Scan.IgnoreFile
import ThreatModel.Scan.IgnoreLevel
import ThreatModel.Scan.UserIgnore
import ThreatModel.Schema
import ThreatModel.Schema.Check
import ThreatModel.Schema.Format
import ThreatModel.Schema.Intermediate
import ThreatModel.Schema.Meta
import ThreatModel.Schema.Regex
import ThreatModel.Schema.Violation
import ThreatModel.SortedMap
import ThreatModel.Source
import ThreatModel.Tag
import ThreatModel.Tag.Kind
import ThreatModel.Tag.Refs
import ThreatModel.Tag.Statement
import ThreatModel.Text.Blank
import ThreatModel.Text.Column
import ThreatModel.Text.Decimal
import ThreatModel.Text.Keyword
import ThreatModel.Text.Letter
import ThreatModel.Text.Lowercase
import ThreatModel.Text.Pattern
import ThreatModel.Text.Range
import ThreatModel.Text.Reader
import ThreatModel.Toml
import ThreatModel.Toml.Format
import ThreatModel.Toml.Scalar
import ThreatModel.Workspace
import ThreatModel.Xml
import ThreatModel.Xml.Format
import ThreatModel.Yaml
import ThreatModel.Yaml.Format
import ThreatModel.Yaml.Node
import ThreatModel.Yaml.References
import ThreatModel.Yaml.Scalar
import ThreatModel.Yaml.Token
import ThreatModel.Yaml.Token.Lexer
