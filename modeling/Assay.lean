import Assay.Check.CallStack
import Assay.Check.Context
import Assay.Check.Declaration
import Assay.Check.File
import Assay.Check.Project
import Assay.Check.Use
import Assay.Command.Arguments
import Assay.Command.Run
import Assay.Decimal.Reading
import Assay.Decimal.Scaled
import Assay.Decimal.Shortest
import Assay.Failure
import Assay.File.Path
import Assay.File.Stream
import Assay.File.Tree
import Assay.File.Uri
import Assay.Json.Basic
import Assay.Json.Reader
import Assay.Json.Writer
import Assay.Logged
import Assay.Main
import Assay.Message.Basic
import Assay.Message.Description
import Assay.Message.Find
import Assay.Message.Policy
import Assay.Message.Range
import Assay.Message.Result
import Assay.Message.Severity
import Assay.Plugin.Annotation.Basic
import Assay.Plugin.Annotation.Forming
import Assay.Plugin.Annotation.Resolve
import Assay.Plugin.Behaviour
import Assay.Plugin.Compiled
import Assay.Plugin.Description
import Assay.Plugin.Function
import Assay.Plugin.Loading
import Assay.Plugin.Module
import Assay.Plugin.Parameter
import Assay.Plugin.Program
import Assay.Plugin.Registry
import Assay.Plugin.Runner
import Assay.Project.Analysis
import Assay.Project.Config
import Assay.Project.Discovery
import Assay.Project.Glob
import Assay.Project.Run
import Assay.Project.Sources
import Assay.Proofs.Checker
import Assay.Proofs.Isolation
import Assay.Proofs.NamedEntries
import Assay.Proofs.ProjectRun
import Assay.Proofs.Registry
import Assay.Proofs.Runner
import Assay.Proofs.Sorting
import Assay.Report.Console
import Assay.Report.Sarif
import Assay.Report.Schema
import Assay.Source.Constant
import Assay.Source.Encoding
import Assay.Source.Expr
import Assay.Source.Fault
import Assay.Source.Lexer
import Assay.Source.Parser.Basic
import Assay.Source.Parser.Expression
import Assay.Source.Parser.Parameters
import Assay.Source.Parser.Pattern
import Assay.Source.Parser.Rules
import Assay.Source.Parser.Run
import Assay.Source.Parser.Statement
import Assay.Source.Parser.Target
import Assay.Source.Parser.TextLiteral
import Assay.Source.Placement.Basic
import Assay.Source.Placement.Expr
import Assay.Source.Placement.Pattern
import Assay.Source.Placement.Stmt
import Assay.Source.Scope.Build
import Assay.Source.Scope.Resolve
import Assay.Source.Span
import Assay.Source.Stmt
import Assay.Source.Symbol
import Assay.Source.Token
import Assay.Source.Undecoded
import Assay.Text.Base64
import Assay.Text.Blank
import Assay.Text.CellWidth
import Assay.Text.CharacterName
import Assay.Text.CharacterName.Aliases
import Assay.Text.CharacterName.Alphabets
import Assay.Text.CharacterName.Ancient
import Assay.Text.CharacterName.Pictograms
import Assay.Text.CharacterName.Scripts
import Assay.Text.CharacterName.Signs
import Assay.Text.CharacterName.Symbols
import Assay.Text.Compatibility
import Assay.Text.CompatibilityData
import Assay.Text.Cut
import Assay.Text.DecimalDigit
import Assay.Text.Hex
import Assay.Text.IdentifierChar
import Assay.Text.LowerCase
import Assay.Text.Printable
import Assay.Text.Quoted
import Assay.Text.Ranges
import Assay.Text.Sha256
import Assay.Text.Utf8
import Assay.Text.WordChar
import Assay.Value.Basic
import Assay.Value.Canonical
import Assay.Value.Items
import Assay.Value.Order
import Assay.Value.Text
import Assay.Yaml.Document
import Assay.Yaml.Node
import Assay.Yaml.Scalar
import Assay.Yaml.Scanner
import Assay.Yaml.Supply
import Assay.Yaml.Token
import Assay.Proofs.Transparency
import Assay.Proofs.Analysis
import Assay.Proofs.Projects
import Assay.Proofs.Preparation
import Assay.Proofs.Discovery
import Assay.Proofs.Spoiled
import Assay.Proofs.PlainTree
import Assay.Proofs.PathText
import Assay.Proofs.ArtifactPaths
import Assay.Proofs.JsonReading
import Assay.Proofs.CanonicalJson
import Assay.Proofs.ReportLog
import Assay.Proofs.SeverityPolicy
import Assay.Proofs.ReportSchema
import Assay.Proofs.LinkedTree
import Assay.Proofs.WrittenFile
import Assay.Proofs.ReportFile
import Assay.Proofs.LinkEnds
import Assay.Proofs.SameOutline
import Assay.Proofs.Configuration
import Assay.Proofs.ReportOutcome
import Assay.Proofs.OrderlyAnalysis
import Assay.Proofs.CommandContract
import Assay.Proofs.ConfigurationFile
import Assay.Proofs.BoundNames
import Assay.Proofs.KnownNames
import Assay.Proofs.DeclarationOrder
import Assay.Proofs.Entities
import Assay.Proofs.TargetNames
import Assay.Proofs.ReportUris
import Assay.Proofs.Contexts
import Assay.Proofs.ListedCodes
import Assay.Proofs.BracketSets
import Assay.Proofs.Globs
import Assay.Proofs.FoundFiles
import Assay.Proofs.CallBinding
import Assay.Proofs.Overrides
import Assay.Proofs.LoadedEntries
import Assay.Proofs.SourceLists
import Assay.Proofs.ScopeStack
