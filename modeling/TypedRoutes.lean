import TypedRoutes.CommandLine.Files
import TypedRoutes.CommandLine.Request
import TypedRoutes.CommandLine.Run
import TypedRoutes.CommandLine.Settings
import TypedRoutes.Declaration.Decoding
import TypedRoutes.Declaration.Encoding
import TypedRoutes.Declaration.Layout
import TypedRoutes.Declaration.Printer
import TypedRoutes.Declaration.Shape
import TypedRoutes.Declaration.Tree
import TypedRoutes.Declaration.Type
import TypedRoutes.Json.Basic
import TypedRoutes.Json.Error
import TypedRoutes.Json.Printer
import TypedRoutes.Json.Reader
import TypedRoutes.Json.Reading
import TypedRoutes.Main
import TypedRoutes.Numeric.Double
import TypedRoutes.Numeric.Shortest
import TypedRoutes.OpenApi.Decoding
import TypedRoutes.OpenApi.Document
import TypedRoutes.OpenApi.Loading
import TypedRoutes.OpenApi.PathItem
import TypedRoutes.OpenApi.Paths
import TypedRoutes.Options.Basic
import TypedRoutes.Options.Decoding
import TypedRoutes.Options.Key
import TypedRoutes.Options.Loading
import TypedRoutes.OrderedMap
import TypedRoutes.Pipeline
import TypedRoutes.Report.Operations
import TypedRoutes.Report.Output
import TypedRoutes.Route.Appending
import TypedRoutes.Route.Category
import TypedRoutes.Route.Completion
import TypedRoutes.Route.Diagnostic
import TypedRoutes.Route.Plugin
import TypedRoutes.Route.Resolution
import TypedRoutes.Route.Table
import TypedRoutes.Route.Template
import TypedRoutes.Text.CaseTable
import TypedRoutes.Text.FormlessTable
import TypedRoutes.Text.Hexadecimal
import TypedRoutes.Text.Lines
import TypedRoutes.Text.Lowercase
import TypedRoutes.Text.Quoted
import TypedRoutes.Text.Ranges
import TypedRoutes.Text.Shown
import TypedRoutes.Toml.Reader
import TypedRoutes.Toml.Scalar
import TypedRoutes.Toml.Value
import TypedRoutes.Yaml.Cursor
import TypedRoutes.Yaml.Decoding
import TypedRoutes.Yaml.Lexer
import TypedRoutes.Yaml.Node
import TypedRoutes.Yaml.Plain
import TypedRoutes.Yaml.Scalar
import TypedRoutes.Yaml.Tag
import TypedRoutes.Yaml.Token
import TypedRoutes.Proofs.Declaration.Layout
import TypedRoutes.Proofs.Declaration.NormalForm
import TypedRoutes.Proofs.Declaration.Unambiguous
import TypedRoutes.Proofs.Json.Distinct
import TypedRoutes.Proofs.OpenApi.Fidelity
import TypedRoutes.Proofs.OpenApi.Paths
import TypedRoutes.Proofs.Options.Resolution
import TypedRoutes.Proofs.Pipeline
import TypedRoutes.Proofs.Report.Disabled
import TypedRoutes.Proofs.Route.Additions
import TypedRoutes.Proofs.Route.Appending
import TypedRoutes.Proofs.Route.Collision
import TypedRoutes.Proofs.Route.Completion
import TypedRoutes.Proofs.Route.Configuration
import TypedRoutes.Proofs.Route.Findings
import TypedRoutes.Proofs.Route.Identifier
import TypedRoutes.Proofs.Route.Inputs
import TypedRoutes.Proofs.Route.Insertion
import TypedRoutes.Proofs.Route.Names
import TypedRoutes.Proofs.Route.References
import TypedRoutes.Proofs.Route.Reordering
import TypedRoutes.Proofs.Route.Resolution
import TypedRoutes.Proofs.Route.Table
import TypedRoutes.Proofs.Pipeline.Hooks
import TypedRoutes.Proofs.OpenApi.Methods
import TypedRoutes.Proofs.Route.Repetition
import TypedRoutes.Proofs.OpenApi.Editing
import TypedRoutes.Proofs.Json.ReadBack
import TypedRoutes.Proofs.Declaration.RoundTrip
import TypedRoutes.Proofs.Declaration.Parsing
import TypedRoutes.Proofs.Report.Restored
import TypedRoutes.Proofs.Pipeline.Phases
import TypedRoutes.Proofs.Report.Preview
import TypedRoutes.Proofs.Declaration.Grouping
import TypedRoutes.Proofs.Route.Agreement
import TypedRoutes.Proofs.Declaration.Unbroken
import TypedRoutes.Proofs.Declaration.Comments
import TypedRoutes.Proofs.Route.Collecting
import TypedRoutes.Proofs.Route.Accounting
import TypedRoutes.Proofs.Route.ExpressPath
import TypedRoutes.Proofs.Route.ExpressReading
import TypedRoutes.Proofs.Route.Spelling
import TypedRoutes.Proofs.Route.Synthesis
import TypedRoutes.Proofs.Route.Rejection
import TypedRoutes.Proofs.Text.Position
import TypedRoutes.Proofs.Toml.LineEnd
import TypedRoutes.Proofs.Toml.LineByLine
import TypedRoutes.Proofs.Toml.Lines
import TypedRoutes.Proofs.Options.Pointing
import TypedRoutes.Proofs.Declaration.DottedName
