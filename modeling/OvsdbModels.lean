import OvsdbModels.Command.Arguments
import OvsdbModels.Command.Manual
import OvsdbModels.Command.Run
import OvsdbModels.Config.Basic
import OvsdbModels.Decimal.Layout
import OvsdbModels.Decimal.Shortest
import OvsdbModels.Files.Disk
import OvsdbModels.Files.Path
import OvsdbModels.Files.Volume
import OvsdbModels.Go.Generate
import OvsdbModels.Go.Preview
import OvsdbModels.Go.Render
import OvsdbModels.Go.Target
import OvsdbModels.Go.Template
import OvsdbModels.Json.Document
import OvsdbModels.Json.Failure
import OvsdbModels.Json.Numeral
import OvsdbModels.Json.Printer
import OvsdbModels.Json.Reader
import OvsdbModels.Json.Text
import OvsdbModels.Json.Typed
import OvsdbModels.Json.Value
import OvsdbModels.Main
import OvsdbModels.Model.Basic
import OvsdbModels.Model.Error
import OvsdbModels.Model.Mapping
import OvsdbModels.Model.Resolve
import OvsdbModels.NameMap
import OvsdbModels.Naming
import OvsdbModels.Proofs.NameMap
import OvsdbModels.Proofs.Text.ByteOrder
import OvsdbModels.Sample.Tables
import OvsdbModels.Sample.Target
import OvsdbModels.Schema.Atom
import OvsdbModels.Schema.Column
import OvsdbModels.Schema.Database
import OvsdbModels.Schema.Error
import OvsdbModels.Schema.KeySpan
import OvsdbModels.Schema.Reader
import OvsdbModels.Schema.TypeForm
import OvsdbModels.Schema.Validation
import OvsdbModels.Source.Align
import OvsdbModels.Source.LineDiff
import OvsdbModels.Source.Writer
import OvsdbModels.Target
import OvsdbModels.Text.Blank
import OvsdbModels.Text.CaseTable
import OvsdbModels.Text.CasedTable
import OvsdbModels.Text.Letter
import OvsdbModels.Text.LetterTable
import OvsdbModels.Text.Position
import OvsdbModels.Text.Quoted
import OvsdbModels.Text.Replace
import OvsdbModels.Text.Split
import OvsdbModels.Toml.Moment
import OvsdbModels.Toml.Statement
import OvsdbModels.Proofs.Model.Resolution
import OvsdbModels.Proofs.Attempt
import OvsdbModels.Proofs.Model.Draft
import OvsdbModels.Proofs.Model.Existence
import OvsdbModels.Proofs.Schema.Violation
import OvsdbModels.Proofs.Text.Split
import OvsdbModels.Proofs.Schema.Validation
import OvsdbModels.Proofs.Model.Contents
import OvsdbModels.Proofs.Go.Selection
import OvsdbModels.Proofs.Text.Form
import OvsdbModels.Proofs.Files.Store
import OvsdbModels.Proofs.Go.Paths
import OvsdbModels.Proofs.Go.Generation
import OvsdbModels.Proofs.Naming
import OvsdbModels.Proofs.Decimal
import OvsdbModels.Proofs.Go.Identifiers
import OvsdbModels.Proofs.Json.Grammar
import OvsdbModels.Proofs.Json.Reading
import OvsdbModels.Proofs.Json.Text
import OvsdbModels.Proofs.Json.Numeral
import OvsdbModels.Proofs.Json.Container
import OvsdbModels.Proofs.Json.Document
import OvsdbModels.Proofs.Json.Typed
import OvsdbModels.Proofs.Json.Record
import OvsdbModels.Proofs.Schema.Reading
import OvsdbModels.Proofs.Json.Order
import OvsdbModels.Proofs.Schema.Order
import OvsdbModels.Proofs.Go.Order
import OvsdbModels.Proofs.Command.Effects
import OvsdbModels.Proofs.Decimal.Finite
import OvsdbModels.Proofs.Json.Ensures
import OvsdbModels.Proofs.Json.Finite
import OvsdbModels.Proofs.Schema.Finite
import OvsdbModels.Proofs.Go.Constants
import OvsdbModels.Proofs.Source.Writing
import OvsdbModels.Proofs.Source.Align
import OvsdbModels.Proofs.Go.Sections
import OvsdbModels.Proofs.Go.Digest
import OvsdbModels.Proofs.Go.Legible
import OvsdbModels.Proofs.Model.Refusal
import OvsdbModels.Proofs.Go.Package
import OvsdbModels.Proofs.Go.Lexical
import OvsdbModels.Proofs.Go.Literals
import OvsdbModels.Proofs.Json.Quotes
import OvsdbModels.Proofs.Json.Place
import OvsdbModels.Proofs.Schema.KeySpan
import OvsdbModels.Proofs.Schema.Place
import OvsdbModels.Proofs.Model.Rules
import OvsdbModels.Proofs.Source.Offset
import OvsdbModels.Proofs.Source.Nesting
import OvsdbModels.Proofs.Naming.Letters
import OvsdbModels.Proofs.Naming.Words
import OvsdbModels.Proofs.Go.Placeholders
import OvsdbModels.Proofs.Json.Literal
import OvsdbModels.Proofs.Json.Content
import OvsdbModels.Proofs.Schema.ColumnForm
import OvsdbModels.Proofs.Schema.EnumForm
import OvsdbModels.Proofs.Source.Lines
import OvsdbModels.Proofs.Text.Position
import OvsdbModels.Proofs.Go.Integers
import OvsdbModels.Proofs.Schema.KeySearch
