import SchemaDesigner.Column
import SchemaDesigner.ColumnType
import SchemaDesigner.CommandLine.Arguments
import SchemaDesigner.CommandLine.Run
import SchemaDesigner.Compatibility
import SchemaDesigner.Decimal.Digits
import SchemaDesigner.Decimal.Shortest
import SchemaDesigner.Dialect
import SchemaDesigner.Host
import SchemaDesigner.IdSupply
import SchemaDesigner.Import
import SchemaDesigner.Json.Basic
import SchemaDesigner.Json.Document
import SchemaDesigner.Json.Fault
import SchemaDesigner.Json.Number
import SchemaDesigner.Json.Quoted
import SchemaDesigner.Json.Reader
import SchemaDesigner.Main
import SchemaDesigner.Name
import SchemaDesigner.Project
import SchemaDesigner.Proofs.CommandLine.Pipeline
import SchemaDesigner.Proofs.Compatibility
import SchemaDesigner.Proofs.Float.Whole
import SchemaDesigner.Proofs.Host.Simulation
import SchemaDesigner.Proofs.Json.Number
import SchemaDesigner.Proofs.Json.Quoted
import SchemaDesigner.Proofs.Json.Written
import SchemaDesigner.Proofs.List
import SchemaDesigner.Proofs.Name
import SchemaDesigner.Proofs.Project.Edges
import SchemaDesigner.Proofs.Project.Entries
import SchemaDesigner.Proofs.Project.Keyed
import SchemaDesigner.Proofs.Project.Reopen
import SchemaDesigner.Proofs.Project.Resolution
import SchemaDesigner.Proofs.Schema.Cascade
import SchemaDesigner.Proofs.Schema.Compatible
import SchemaDesigner.Proofs.Schema.Distinct
import SchemaDesigner.Proofs.Schema.Effect
import SchemaDesigner.Proofs.Schema.ForeignKeys
import SchemaDesigner.Proofs.Schema.Frame
import SchemaDesigner.Proofs.Schema.Lasting
import SchemaDesigner.Proofs.Schema.Layout
import SchemaDesigner.Proofs.Schema.NewReference
import SchemaDesigner.Proofs.Schema.Outline
import SchemaDesigner.Proofs.Schema.OutlineChange
import SchemaDesigner.Proofs.Schema.References
import SchemaDesigner.Proofs.Schema.Referral
import SchemaDesigner.Proofs.Schema.Renaming
import SchemaDesigner.Proofs.Schema.Revival
import SchemaDesigner.Proofs.Schema.SelfReference
import SchemaDesigner.Proofs.Schema.SoleKey
import SchemaDesigner.Proofs.Schema.Trace
import SchemaDesigner.Proofs.Schema.WellFormed
import SchemaDesigner.Proofs.Script.Action
import SchemaDesigner.Proofs.Script.Apart
import SchemaDesigner.Proofs.Script.Arrangement
import SchemaDesigner.Proofs.Script.Balance
import SchemaDesigner.Proofs.Script.BodyCursor
import SchemaDesigner.Proofs.Script.Captured
import SchemaDesigner.Proofs.Script.Clause
import SchemaDesigner.Proofs.Script.Column
import SchemaDesigner.Proofs.Script.Decoration
import SchemaDesigner.Proofs.Script.Elements
import SchemaDesigner.Proofs.Script.Endings
import SchemaDesigner.Proofs.Script.Import
import SchemaDesigner.Proofs.Script.Index
import SchemaDesigner.Proofs.Script.Keys
import SchemaDesigner.Proofs.Script.Legible
import SchemaDesigner.Proofs.Script.Nesting
import SchemaDesigner.Proofs.Script.Numeral
import SchemaDesigner.Proofs.Script.Origin
import SchemaDesigner.Proofs.Script.Placement
import SchemaDesigner.Proofs.Script.Quote
import SchemaDesigner.Proofs.Script.Recovery
import SchemaDesigner.Proofs.Script.Reexport
import SchemaDesigner.Proofs.Script.Roundtrip
import SchemaDesigner.Proofs.Script.Scan
import SchemaDesigner.Proofs.Script.Spacing
import SchemaDesigner.Proofs.Script.Spelling
import SchemaDesigner.Proofs.Script.Statement
import SchemaDesigner.Proofs.Script.Table
import SchemaDesigner.Proofs.Script.Tidy
import SchemaDesigner.Proofs.Storage.Directory
import SchemaDesigner.Proofs.Text.Cut
import SchemaDesigner.Proofs.Text.Letter
import SchemaDesigner.Proofs.Text.Upper
import SchemaDesigner.Proofs.Wire.Column
import SchemaDesigner.Proofs.Wire.Command
import SchemaDesigner.Proofs.Wire.Member
import SchemaDesigner.Proofs.Wire.Project
import SchemaDesigner.Proofs.Wire.Reading
import SchemaDesigner.Proofs.Wire.Reread
import SchemaDesigner.Proofs.Wire.Steady
import SchemaDesigner.Proofs.Wire.Table
import SchemaDesigner.Relationship
import SchemaDesigner.Schema.Basic
import SchemaDesigner.Schema.Command
import SchemaDesigner.Script.Body
import SchemaDesigner.Script.ColumnOption
import SchemaDesigner.Script.Definition
import SchemaDesigner.Script.Element
import SchemaDesigner.Script.Lexer
import SchemaDesigner.Script.Phrase
import SchemaDesigner.Script.Render
import SchemaDesigner.Script.Token
import SchemaDesigner.Storage.Directory
import SchemaDesigner.Storage.FileAccess
import SchemaDesigner.Storage.Path
import SchemaDesigner.Storage.ProjectFile
import SchemaDesigner.Summary
import SchemaDesigner.Table
import SchemaDesigner.Text.Blank
import SchemaDesigner.Text.Delimited
import SchemaDesigner.Text.Letter
import SchemaDesigner.Text.Ranges
import SchemaDesigner.Text.Shown
import SchemaDesigner.Text.Upper
import SchemaDesigner.Text.Width
import SchemaDesigner.Text.WidthClass
import SchemaDesigner.Timestamp.Basic
import SchemaDesigner.Timestamp.Reader
import SchemaDesigner.Wire.Column
import SchemaDesigner.Wire.Command
import SchemaDesigner.Wire.Dialect
import SchemaDesigner.Wire.Project
import SchemaDesigner.Wire.Reading
import SchemaDesigner.Wire.Record
import SchemaDesigner.Wire.Table
