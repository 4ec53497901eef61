import CallChain.Assoc
import CallChain.CallSite
import CallChain.Cancellation
import CallChain.CommandLine.Arguments
import CallChain.CommandLine.Command
import CallChain.CommandLine.Run
import CallChain.Decimal.Binary
import CallChain.Decimal.Fixed
import CallChain.Decimal.Reader
import CallChain.Decimal.Shortest
import CallChain.Detector
import CallChain.Failure
import CallChain.Files.Disk
import CallChain.Files.Path
import CallChain.Files.Sources
import CallChain.Files.Tree
import CallChain.HandOff
import CallChain.Imports
import CallChain.Index
import CallChain.Index.Build
import CallChain.Json.Reader
import CallChain.Json.Writer
import CallChain.Log.Config
import CallChain.Log.Record
import CallChain.Main
import CallChain.Output.Console
import CallChain.Output.Data
import CallChain.Proofs.CommandLine.Listing
import CallChain.Proofs.CommandLine.Output
import CallChain.Proofs.CommandLine.Run
import CallChain.Proofs.Declarations
import CallChain.Proofs.Detector.Agreement
import CallChain.Proofs.Detector.Outcome
import CallChain.Proofs.Detector.Report
import CallChain.Proofs.Files.Paths
import CallChain.Proofs.Files.Places
import CallChain.Proofs.Files.Sources
import CallChain.Proofs.Files.Trees
import CallChain.Proofs.Identifiers
import CallChain.Proofs.Index.AttributeTypes
import CallChain.Proofs.Index.Candidates
import CallChain.Proofs.Index.Coverage
import CallChain.Proofs.Index.Disk
import CallChain.Proofs.Index.Fallback
import CallChain.Proofs.Index.Files
import CallChain.Proofs.Index.HandOffs
import CallChain.Proofs.Index.Identity
import CallChain.Proofs.Index.Imports
import CallChain.Proofs.Index.Mentions
import CallChain.Proofs.Index.Names
import CallChain.Proofs.Index.Receivers
import CallChain.Proofs.Index.Sites
import CallChain.Proofs.Index.Skipped
import CallChain.Proofs.Index.Specifiers
import CallChain.Proofs.Index.SuperCalls
import CallChain.Proofs.ModuleNames
import CallChain.Proofs.Nesting
import CallChain.Proofs.Occurrences
import CallChain.Proofs.Python.Addresses
import CallChain.Proofs.Python.Expressions
import CallChain.Proofs.Python.Formation
import CallChain.Proofs.Python.Lexing
import CallChain.Proofs.Python.Lines
import CallChain.Proofs.Python.Outline
import CallChain.Proofs.Python.Patterns
import CallChain.Proofs.Python.Reading
import CallChain.Proofs.Python.Shape
import CallChain.Proofs.Python.Spots
import CallChain.Proofs.Python.Statements
import CallChain.Proofs.RelativeImports
import CallChain.Proofs.Resolver.Binding
import CallChain.Proofs.Resolver.Inheritance
import CallChain.Proofs.Resolver.LocalTypes
import CallChain.Proofs.Resolver.Precedence
import CallChain.Proofs.Scopes
import CallChain.Proofs.Search.Cancellation
import CallChain.Proofs.Search.Course
import CallChain.Proofs.Search.Depth
import CallChain.Proofs.Search.Enumeration
import CallChain.Proofs.Search.Inclusion
import CallChain.Proofs.Search.Naming
import CallChain.Proofs.Search.Order
import CallChain.Proofs.Search.Progress
import CallChain.Proofs.Search.Reachability
import CallChain.Proofs.Search.Repetition
import CallChain.Proofs.Service.Agreement
import CallChain.Proofs.Service.Answers
import CallChain.Proofs.Session
import CallChain.Proofs.Session.Effects
import CallChain.Proofs.Settings
import CallChain.Proofs.Spelling
import CallChain.Proofs.Words
import CallChain.Python.Grammar.Expressions
import CallChain.Python.Grammar.Patterns
import CallChain.Python.Grammar.Reader
import CallChain.Python.Grammar.Statements
import CallChain.Python.Grammar.Target
import CallChain.Python.Lexer
import CallChain.Python.Names
import CallChain.Python.Node
import CallChain.Python.Number
import CallChain.Python.Parser
import CallChain.Python.Printer
import CallChain.Python.Spot
import CallChain.Python.TextLiteral
import CallChain.Python.Token
import CallChain.Report
import CallChain.Resolver
import CallChain.Routine
import CallChain.Search
import CallChain.Service.Command
import CallChain.Service.Handler
import CallChain.Service.Request
import CallChain.Service.Tools
import CallChain.Session
import CallChain.Session.Tracing
import CallChain.Settings
import CallChain.Settings.File
import CallChain.SourceModule
import CallChain.Text.Blank
import CallChain.Text.Compatibility
import CallChain.Text.Identifier
import CallChain.Text.Letters
import CallChain.Text.Likeness
import CallChain.Text.Percent
import CallChain.Text.Printable
import CallChain.Text.Quoted
import CallChain.Text.Ranges
import CallChain.Text.Template
import CallChain.Text.Utf8
import CallChain.Text.Words
import CallChain.Value
import CallChain.Yaml.Reader
import CallChain.Yaml.Scalar
import CallChain.Yaml.Token
