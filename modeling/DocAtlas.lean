import DocAtlas.Braced.Adapter
import DocAtlas.Braced.Import
import DocAtlas.Braced.Lexeme
import DocAtlas.Braced.Parser.Basic
import DocAtlas.Braced.Parser.Binding
import DocAtlas.Braced.Parser.Class
import DocAtlas.Braced.Parser.Expression
import DocAtlas.Braced.Parser.Markup
import DocAtlas.Braced.Parser.Statement
import DocAtlas.Braced.Parser.Type
import DocAtlas.Braced.Reference
import DocAtlas.Braced.Tree
import DocAtlas.Cli.Arguments
import DocAtlas.Cli.Command
import DocAtlas.Cli.Execute
import DocAtlas.Component
import DocAtlas.Component.Inference
import DocAtlas.Config.Basic
import DocAtlas.Config.Load
import DocAtlas.Config.Reading
import DocAtlas.Config.Setting
import DocAtlas.Deadline
import DocAtlas.Decimal.Binary
import DocAtlas.Decimal.Reading
import DocAtlas.Decimal.Shortest
import DocAtlas.Diagram.Basic
import DocAtlas.Diagram.Mermaid
import DocAtlas.Diagram.Views
import DocAtlas.Digest
import DocAtlas.Disk
import DocAtlas.Document.Basic
import DocAtlas.Document.Guide
import DocAtlas.Document.Outline
import DocAtlas.Document.Review
import DocAtlas.Document.Technical
import DocAtlas.Document.Tree
import DocAtlas.Extract.Adapter
import DocAtlas.Extract.Builtin
import DocAtlas.Extract.Extraction
import DocAtlas.Extract.Surface
import DocAtlas.Finding
import DocAtlas.Graph.Basic
import DocAtlas.Graph.Build
import DocAtlas.Graph.Cycles
import DocAtlas.Graph.Resolver
import DocAtlas.Indented.Adapter
import DocAtlas.Indented.Environment
import DocAtlas.Indented.Import
import DocAtlas.Indented.Lexer
import DocAtlas.Indented.Library
import DocAtlas.Indented.Literal
import DocAtlas.Indented.Number
import DocAtlas.Indented.Parser.Basic
import DocAtlas.Indented.Parser.Expression
import DocAtlas.Indented.Parser.Pattern
import DocAtlas.Indented.Parser.Statement
import DocAtlas.Indented.Parser.Target
import DocAtlas.Indented.Printer
import DocAtlas.Indented.Reference
import DocAtlas.Indented.Syntax
import DocAtlas.Indented.Token
import DocAtlas.Indented.Walk
import DocAtlas.Json.Basic
import DocAtlas.Json.Printer
import DocAtlas.Json.Reader
import DocAtlas.Keyed
import DocAtlas.Log
import DocAtlas.Main
import DocAtlas.Markdown.Contents
import DocAtlas.Markdown.Lint
import DocAtlas.Markdown.Page
import DocAtlas.Naming
import DocAtlas.Order
import DocAtlas.Path
import DocAtlas.Power
import DocAtlas.Proofs.Accounting
import DocAtlas.Proofs.Acyclicity
import DocAtlas.Proofs.Anchors
import DocAtlas.Proofs.Architecture
import DocAtlas.Proofs.Attribution
import DocAtlas.Proofs.Building
import DocAtlas.Proofs.CallChains
import DocAtlas.Proofs.Candidates
import DocAtlas.Proofs.Claiming
import DocAtlas.Proofs.Configuring
import DocAtlas.Proofs.Cutting
import DocAtlas.Proofs.Cycles
import DocAtlas.Proofs.Deadlines
import DocAtlas.Proofs.Declaring
import DocAtlas.Proofs.DepthFirst
import DocAtlas.Proofs.Distances
import DocAtlas.Proofs.Documentation
import DocAtlas.Proofs.Edges
import DocAtlas.Proofs.Entries
import DocAtlas.Proofs.FilePaths
import DocAtlas.Proofs.Filling
import DocAtlas.Proofs.Flowcharts
import DocAtlas.Proofs.Following
import DocAtlas.Proofs.GlobLanguage
import DocAtlas.Proofs.GlobLiterals
import DocAtlas.Proofs.GlobReading
import DocAtlas.Proofs.Headings
import DocAtlas.Proofs.LaterRules
import DocAtlas.Proofs.Legibility
import DocAtlas.Proofs.LineReading
import DocAtlas.Proofs.Magnitudes
import DocAtlas.Proofs.Mapping
import DocAtlas.Proofs.Merging
import DocAtlas.Proofs.ModulePaths
import DocAtlas.Proofs.Narrowing
import DocAtlas.Proofs.Navigation
import DocAtlas.Proofs.NormalPaths
import DocAtlas.Proofs.Numbers
import DocAtlas.Proofs.Ordering
import DocAtlas.Proofs.Outline
import DocAtlas.Proofs.OutputRules
import DocAtlas.Proofs.PageFiles
import DocAtlas.Proofs.PageHeadings
import DocAtlas.Proofs.PageLinks
import DocAtlas.Proofs.PageTree
import DocAtlas.Proofs.Places
import DocAtlas.Proofs.Preorder
import DocAtlas.Proofs.Preparation
import DocAtlas.Proofs.Ranking
import DocAtlas.Proofs.Readings
import DocAtlas.Proofs.Refilling
import DocAtlas.Proofs.Registering
import DocAtlas.Proofs.RelativeImports
import DocAtlas.Proofs.Relisting
import DocAtlas.Proofs.Repairing
import DocAtlas.Proofs.Resolution
import DocAtlas.Proofs.Retidying
import DocAtlas.Proofs.Reviewing
import DocAtlas.Proofs.RuleLanguage
import DocAtlas.Proofs.RuleMatching
import DocAtlas.Proofs.RuleReading
import DocAtlas.Proofs.Scanning
import DocAtlas.Proofs.Schedules
import DocAtlas.Proofs.Searching
import DocAtlas.Proofs.Sections
import DocAtlas.Proofs.SharedIds
import DocAtlas.Proofs.Slugs
import DocAtlas.Proofs.Spacing
import DocAtlas.Proofs.Specifiers
import DocAtlas.Proofs.Spellings
import DocAtlas.Proofs.Splitting
import DocAtlas.Proofs.Stages
import DocAtlas.Proofs.Substitutes
import DocAtlas.Proofs.Substitution
import DocAtlas.Proofs.TableMarks
import DocAtlas.Proofs.Targets
import DocAtlas.Proofs.Teaching
import DocAtlas.Proofs.TidyContent
import DocAtlas.Proofs.TidyForm
import DocAtlas.Proofs.Tidying
import DocAtlas.Proofs.TidyingSteps
import DocAtlas.Proofs.Trimming
import DocAtlas.Proofs.UnitClaims
import DocAtlas.Proofs.Validity
import DocAtlas.Proofs.Walking
import DocAtlas.Proofs.Ways
import DocAtlas.Proofs.Windows
import DocAtlas.Proofs.Workers
import DocAtlas.Proofs.Worklist
import DocAtlas.Run.Basic
import DocAtlas.Run.Pipeline
import DocAtlas.Run.Records
import DocAtlas.Run.Report
import DocAtlas.Scan.Glob
import DocAtlas.Scan.Rule
import DocAtlas.Scan.Snapshot
import DocAtlas.Scan.Unit
import DocAtlas.Scan.Walk
import DocAtlas.Service.Request
import DocAtlas.Service.Respond
import DocAtlas.Site
import DocAtlas.Text.Blank
import DocAtlas.Text.Case
import DocAtlas.Text.Case.Table
import DocAtlas.Text.CharSet
import DocAtlas.Text.Identifier
import DocAtlas.Text.Lines
import DocAtlas.Text.NormalForm
import DocAtlas.Text.NormalForm.Table
import DocAtlas.Text.Printable
import DocAtlas.Text.Quoted
import DocAtlas.Text.Similarity
import DocAtlas.Text.Slug
import DocAtlas.Text.Utf8
import DocAtlas.Tutorial
import DocAtlas.Yaml.Cursor
import DocAtlas.Yaml.Lexer
import DocAtlas.Yaml.Load
import DocAtlas.Yaml.Node
import DocAtlas.Yaml.Reading
import DocAtlas.Yaml.Scalar
import DocAtlas.Yaml.Tag
import DocAtlas.Yaml.Token
import DocAtlas.Yaml.Value
