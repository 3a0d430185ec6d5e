import TableTypes.Casing.Choice
import TableTypes.Casing.Identifier
import TableTypes.Casing.Style
import TableTypes.Casing.Words
import TableTypes.CommandLine.Arguments
import TableTypes.CommandLine.Flag
import TableTypes.CommandLine.Help
import TableTypes.CommandLine.Lexeme
import TableTypes.CommandLine.Program
import TableTypes.Database.Catalog
import TableTypes.Database.Connection
import TableTypes.Database.Query
import TableTypes.Database.Recorded
import TableTypes.Database.Rows
import TableTypes.Decimal.Fields
import TableTypes.Decimal.Nearest
import TableTypes.Decimal.Rounded
import TableTypes.Decimal.Shortest
import TableTypes.Declaration.Column
import TableTypes.Declaration.Draft
import TableTypes.Declaration.EnumType
import TableTypes.Declaration.Interface
import TableTypes.Declaration.Preamble
import TableTypes.Declaration.TypeObject
import TableTypes.Declaration.Validator
import TableTypes.Files.Path
import TableTypes.Files.Tree
import TableTypes.Files.Trouble
import TableTypes.Generation.Plan
import TableTypes.Generation.Run
import TableTypes.Generation.Session
import TableTypes.Generation.Source
import TableTypes.Journal.Context
import TableTypes.Journal.Entry
import TableTypes.Journal.Level
import TableTypes.Journal.Line
import TableTypes.Journal.Settings
import TableTypes.Journal.Template
import TableTypes.Journal.Written
import TableTypes.Json.Read
import TableTypes.Json.Render
import TableTypes.Main
import TableTypes.Options.Basic
import TableTypes.Options.Document
import TableTypes.Options.Mapping
import TableTypes.Proofs.Casing.Conversion
import TableTypes.Proofs.Casing.Cuts
import TableTypes.Proofs.Casing.Declared
import TableTypes.Proofs.Casing.Identifier
import TableTypes.Proofs.Casing.Joining
import TableTypes.Proofs.Casing.Reading
import TableTypes.Proofs.Casing.Words
import TableTypes.Proofs.CommandLine.Delivery
import TableTypes.Proofs.CommandLine.Layers
import TableTypes.Proofs.Database.Addressing
import TableTypes.Proofs.Database.Gathering
import TableTypes.Proofs.Database.Masking
import TableTypes.Proofs.Database.RowOrder
import TableTypes.Proofs.Database.TablesRead
import TableTypes.Proofs.Decimal.Nearest
import TableTypes.Proofs.Decimal.Rounding
import TableTypes.Proofs.Decimal.Shortest
import TableTypes.Proofs.Decimal.Storing
import TableTypes.Proofs.Declaration.Building
import TableTypes.Proofs.Declaration.Clean
import TableTypes.Proofs.Declaration.Exposure
import TableTypes.Proofs.Declaration.Labels
import TableTypes.Proofs.Declaration.Members
import TableTypes.Proofs.Declaration.References
import TableTypes.Proofs.Declaration.Shapes
import TableTypes.Proofs.Declaration.Tags
import TableTypes.Proofs.Declaration.Variants
import TableTypes.Proofs.Files.Written
import TableTypes.Proofs.FirstFailure
import TableTypes.Proofs.Generation.Bindings
import TableTypes.Proofs.Generation.Closure
import TableTypes.Proofs.Generation.ColumnOrder
import TableTypes.Proofs.Generation.Contents
import TableTypes.Proofs.Generation.Endings
import TableTypes.Proofs.Generation.Exposure
import TableTypes.Proofs.Generation.History
import TableTypes.Proofs.Generation.InPlace
import TableTypes.Proofs.Generation.Insertion
import TableTypes.Proofs.Generation.Keeping
import TableTypes.Proofs.Generation.Layout
import TableTypes.Proofs.Generation.Members
import TableTypes.Proofs.Generation.OmittedEnums
import TableTypes.Proofs.Generation.Phases
import TableTypes.Proofs.Generation.Planning
import TableTypes.Proofs.Generation.Release
import TableTypes.Proofs.Generation.Reordering
import TableTypes.Proofs.Generation.Result
import TableTypes.Proofs.Generation.Staging
import TableTypes.Proofs.Generation.Tags
import TableTypes.Proofs.Generation.Validators
import TableTypes.Proofs.Generation.Verdict
import TableTypes.Proofs.Journal.Blocks
import TableTypes.Proofs.Journal.Handlers
import TableTypes.Proofs.Journal.Lines
import TableTypes.Proofs.Json.Decimals
import TableTypes.Proofs.Json.Numbers
import TableTypes.Proofs.Json.Reading
import TableTypes.Proofs.Options.Acceptance
import TableTypes.Proofs.Options.Calls
import TableTypes.Proofs.Options.Overrides
import TableTypes.Proofs.Options.Setting
import TableTypes.Proofs.Options.Words
import TableTypes.Proofs.Registry.Greedy
import TableTypes.Proofs.Registry.Ledger
import TableTypes.Proofs.Registry.Readings
import TableTypes.Proofs.Registry.Registration
import TableTypes.Proofs.Registry.Resolution
import TableTypes.Proofs.Syntax.Clean
import TableTypes.Proofs.Syntax.ExpressionLexemes
import TableTypes.Proofs.Syntax.ExpressionReading
import TableTypes.Proofs.Syntax.Lexemes
import TableTypes.Proofs.Syntax.Modules
import TableTypes.Proofs.Syntax.Names
import TableTypes.Proofs.Syntax.Tagged
import TableTypes.Proofs.Syntax.Templates
import TableTypes.Proofs.Syntax.TypeLexemes
import TableTypes.Proofs.Syntax.TypeReading
import TableTypes.Proofs.Text.Joined
import TableTypes.Proofs.Text.Lines
import TableTypes.Proofs.Text.Outside
import TableTypes.Proofs.Text.Quoted
import TableTypes.Proofs.Text.SmallLetters
import TableTypes.Proofs.Value.Fields
import TableTypes.Proofs.Work
import TableTypes.Registry.Attempt
import TableTypes.Registry.Basic
import TableTypes.Registry.Builtin
import TableTypes.Snapshot.Basic
import TableTypes.Snapshot.Check
import TableTypes.Snapshot.Fault
import TableTypes.Syntax.Layout
import TableTypes.Syntax.Node
import TableTypes.Syntax.Printer
import TableTypes.Syntax.Tagged.Read
import TableTypes.Syntax.Tagged.Write
import TableTypes.Text.Blank
import TableTypes.Text.Digit
import TableTypes.Text.Filled
import TableTypes.Text.Hex
import TableTypes.Text.Literal
import TableTypes.Text.LowerCase
import TableTypes.Text.Printable
import TableTypes.Text.Quoted
import TableTypes.Value.Basic
import TableTypes.Value.Choice
import TableTypes.Value.Parts
import TableTypes.Value.Text
import TableTypes.Yaml.Binary
import TableTypes.Yaml.Cursor
import TableTypes.Yaml.Document
import TableTypes.Yaml.Fault
import TableTypes.Yaml.Lexeme
import TableTypes.Yaml.Nesting
import TableTypes.Yaml.Node
import TableTypes.Yaml.Number
import TableTypes.Yaml.Scalar.Basic
import TableTypes.Yaml.Scalar.Block
import TableTypes.Yaml.Scalar.Plain
import TableTypes.Yaml.Scalar.Quoted
import TableTypes.Yaml.Tag
import TableTypes.Yaml.Timestamp
