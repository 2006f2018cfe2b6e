import FactViews.Artifact.Emitter
import FactViews.Artifact.Manifest
import FactViews.Catalog
import FactViews.CommandLine
import FactViews.CommandLine.Arguments
import FactViews.Dialect
import FactViews.Digest.Sha256
import FactViews.Document
import FactViews.Document.File
import FactViews.Document.Reader
import FactViews.Document.Violation
import FactViews.Files.Disk
import FactViews.Files.Path
import FactViews.Json
import FactViews.LogFilter
import FactViews.LogFilter.Pattern
import FactViews.LogFilter.Pattern.Reader
import FactViews.Main
import FactViews.Model
import FactViews.Model.Lowering
import FactViews.Query.Aggregation
import FactViews.Query.Basic
import FactViews.Query.Build
import FactViews.Query.Joins
import FactViews.Query.Pipeline
import FactViews.Query.Roles
import FactViews.Report
import FactViews.Settings
import FactViews.Settings.Reader
import FactViews.Settings.Variables
import FactViews.Statement
import FactViews.Text.Alphanumeric
import FactViews.Text.Basic
import FactViews.Text.Lowercase
import FactViews.Text.Lowercase.Table
import FactViews.Text.Ranges
import FactViews.Toml.Number
import FactViews.Toml.Parser
import FactViews.Toml.Table
import FactViews.Toml.Text
import FactViews.Toml.Value
import FactViews.Trace
import FactViews.Yaml.Cursor
import FactViews.Yaml.Event
import FactViews.Yaml.Fault
import FactViews.Yaml.Node
import FactViews.Yaml.Token
import FactViews.Yaml.Token.Scalar
import FactViews.Yaml.Token.Scanner
import FactViews.Yaml.Token.Tag
import FactViews.Proofs.CatalogLemmas
import FactViews.Proofs.JoinBinding
import FactViews.Proofs.BoundQuery
import FactViews.Proofs.Compilation
import FactViews.Proofs.Validity
import FactViews.Proofs.LoweringSteps
import FactViews.Proofs.ValidatedCompilation
import FactViews.Proofs.Lexemes
import FactViews.Proofs.StatementTokens
import FactViews.Proofs.PipelineRuns
import FactViews.Proofs.BatchReport
import FactViews.Proofs.PassOrder
import FactViews.Proofs.DiskLemmas
import FactViews.Proofs.FactIsolation
import FactViews.Proofs.PathLemmas
import FactViews.Proofs.DiskChanges
import FactViews.Proofs.Emission
import FactViews.Proofs.ViolationReport
import FactViews.Proofs.RepeatedEmission
import FactViews.Proofs.CompileCommand
import FactViews.Proofs.ColumnRoles
import FactViews.Proofs.DistinctNames
import FactViews.Proofs.LosslessLowering
import FactViews.Proofs.JsonGrammar
import FactViews.Proofs.JsonReading
import FactViews.Proofs.NameErrors
import FactViews.Proofs.VariableExpansion
import FactViews.Proofs.ManifestText
import FactViews.Proofs.ModelAdditions
import FactViews.Proofs.AggregationPlans
import FactViews.Proofs.PrintedStatements
