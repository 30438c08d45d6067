import RuleLint.Command.Arguments
import RuleLint.Command.Help
import RuleLint.Command.Misuse
import RuleLint.Command.Program
import RuleLint.Command.Spec
import RuleLint.Config
import RuleLint.Date
import RuleLint.Decimal.Shortest
import RuleLint.Digest.Sha256
import RuleLint.Discovery
import RuleLint.Error
import RuleLint.FilePath
import RuleLint.FileTree.Basic
import RuleLint.FileTree.Change
import RuleLint.Finding
import RuleLint.Glob.Expand
import RuleLint.Glob.Ignore
import RuleLint.Glob.Pattern
import RuleLint.Grep
import RuleLint.Json.Basic
import RuleLint.Json.Decode
import RuleLint.Json.Number
import RuleLint.Json.Printer
import RuleLint.Json.Reader
import RuleLint.Json.Schema
import RuleLint.Language
import RuleLint.Linting.Files
import RuleLint.Linting.QueryCache
import RuleLint.Linting.Run
import RuleLint.Linting.Source
import RuleLint.Main
import RuleLint.Notice
import RuleLint.Policy
import RuleLint.Proofs.Command.ExitCode
import RuleLint.Proofs.Command.Starting
import RuleLint.Proofs.Discovery
import RuleLint.Proofs.Discovery.AlwaysExcluded
import RuleLint.Proofs.Discovery.BaseName
import RuleLint.Proofs.Discovery.Comprehension
import RuleLint.Proofs.Discovery.Relative
import RuleLint.Proofs.Discovery.Spelling
import RuleLint.Proofs.Except
import RuleLint.Proofs.FilePath.Normal
import RuleLint.Proofs.FilePath.Resolution
import RuleLint.Proofs.FileTree.Below
import RuleLint.Proofs.FileTree.Directories
import RuleLint.Proofs.FileTree.Join
import RuleLint.Proofs.FileTree.Write
import RuleLint.Proofs.Glob.Descent
import RuleLint.Proofs.Glob.Expansion
import RuleLint.Proofs.Glob.Inside
import RuleLint.Proofs.Glob.Mirror
import RuleLint.Proofs.Glob.Reading
import RuleLint.Proofs.Grep
import RuleLint.Proofs.Json.Members
import RuleLint.Proofs.Json.Scalars
import RuleLint.Proofs.Json.Shapes
import RuleLint.Proofs.Linting.Alone
import RuleLint.Proofs.Linting.ByFile
import RuleLint.Proofs.Linting.Cache
import RuleLint.Proofs.Linting.Composition
import RuleLint.Proofs.Linting.Counted
import RuleLint.Proofs.Linting.Documents
import RuleLint.Proofs.Linting.Errors
import RuleLint.Proofs.Linting.Failure
import RuleLint.Proofs.Linting.Floor
import RuleLint.Proofs.Linting.Independence
import RuleLint.Proofs.Linting.Memo
import RuleLint.Proofs.Linting.Origin
import RuleLint.Proofs.Linting.Requests
import RuleLint.Proofs.Linting.Setup
import RuleLint.Proofs.Linting.Source
import RuleLint.Proofs.Linting.Strict
import RuleLint.Proofs.Linting.Verdict
import RuleLint.Proofs.Linting.Visit
import RuleLint.Proofs.Linting.VisitOrder
import RuleLint.Proofs.Location
import RuleLint.Proofs.PathOrder
import RuleLint.Proofs.Policy
import RuleLint.Proofs.Policy.Keys
import RuleLint.Proofs.Query.CaptureNames
import RuleLint.Proofs.Query.Reported
import RuleLint.Proofs.Registry
import RuleLint.Proofs.Registry.History
import RuleLint.Proofs.Report.Agreement
import RuleLint.Proofs.Report.Colours
import RuleLint.Proofs.Report.Console
import RuleLint.Proofs.Report.Descriptors
import RuleLint.Proofs.Report.DomainsApart
import RuleLint.Proofs.Report.Fingerprints
import RuleLint.Proofs.Report.Grouping
import RuleLint.Proofs.Report.Reading
import RuleLint.Proofs.Report.Roundtrip
import RuleLint.Proofs.Report.Values
import RuleLint.Proofs.RuleDocument
import RuleLint.Proofs.RuleDocument.FirstFault
import RuleLint.Proofs.RuleDocument.Shape
import RuleLint.Provenance
import RuleLint.Query.Analysis
import RuleLint.Query.Basic
import RuleLint.Query.Condition
import RuleLint.Query.Error
import RuleLint.Query.Node
import RuleLint.Query.Reader
import RuleLint.Query.Search
import RuleLint.Query.Step
import RuleLint.Regex.Ast
import RuleLint.Regex.Basic
import RuleLint.Regex.Class
import RuleLint.Regex.Error
import RuleLint.Regex.Expr
import RuleLint.Regex.Parser
import RuleLint.Regex.Program
import RuleLint.Regex.Search
import RuleLint.Regex.Size
import RuleLint.Registry
import RuleLint.Report.Console
import RuleLint.Report.Format
import RuleLint.Report.Guid
import RuleLint.Report.Sarif
import RuleLint.Report.Style
import RuleLint.Rule.Basic
import RuleLint.Rule.Document
import RuleLint.Rule.Load
import RuleLint.Severity
import RuleLint.Syntax.Grammar
import RuleLint.Syntax.Grammar.Reader
import RuleLint.Syntax.Grammars
import RuleLint.Syntax.Grammars.C
import RuleLint.Syntax.Grammars.Go
import RuleLint.Syntax.Grammars.JavaScript
import RuleLint.Syntax.Grammars.Python
import RuleLint.Syntax.Grammars.Rust
import RuleLint.Syntax.Grammars.TypeScript
import RuleLint.Syntax.Layout
import RuleLint.Syntax.Parse
import RuleLint.Syntax.Parser
import RuleLint.Syntax.Tree
import RuleLint.Text.Blank
import RuleLint.Text.Case
import RuleLint.Text.Lines
import RuleLint.Text.Padded
import RuleLint.Text.Position
import RuleLint.Text.Quoted
import RuleLint.Text.Similarity
import RuleLint.Toml.Basic
import RuleLint.Toml.Decode
import RuleLint.Toml.Reader
import RuleLint.Unicode.Category
import RuleLint.Unicode.Fold
import RuleLint.Unicode.Property
import RuleLint.Unicode.Ranges
import RuleLint.Unicode.Script
import RuleLint.Unicode.ScriptExtension
