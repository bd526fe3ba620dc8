import ClientGen.Text.Alphanumeric
import ClientGen.Text.Casing
import ClientGen.Text.Blank
import ClientGen.Naming
import ClientGen.Kotlin.Lexical
import ClientGen.Kotlin.Doc
import ClientGen.Kotlin.SourceFile
import ClientGen.Kotlin.TypeText
import ClientGen.Data.Literal
import ClientGen.Data.Value
import ClientGen.Decimal.Shortest
import ClientGen.Document.Reference
import ClientGen.Document.Basic
import ClientGen.Document.MediaKind
import ClientGen.Document.StatusCode
import ClientGen.Analysis.Failure
import ClientGen.Analysis.Notice
import ClientGen.Document.Inline
import ClientGen.Endpoint.Basic
import ClientGen.Endpoint.Group
import ClientGen.Endpoint.Negotiation
import ClientGen.Model.Flatten
import ClientGen.Unique
import ClientGen.Model.Build
import ClientGen.Model.Discovery
import ClientGen.Analysis.Basic
import ClientGen.Decimal.Spelling
import ClientGen.Kotlin.ApiFile
import ClientGen.Kotlin.ModelFile
import ClientGen.Kotlin.Client
import ClientGen.Data.Node
import ClientGen.Json.Number
import ClientGen.Json.Text
import ClientGen.Json.Read
import ClientGen.Data.Fields
import ClientGen.Document.OfNode
import ClientGen.Document.Load
import ClientGen.Settings.OfValue
import ClientGen.Decimal.Nearest
import ClientGen.Yaml.Block
import ClientGen.Yaml.Gap
import ClientGen.Yaml.Plain
import ClientGen.Yaml.Quoted
import ClientGen.Yaml.Label
import ClientGen.Yaml.Token
import ClientGen.Yaml.Layout
import ClientGen.Yaml.Tree
import ClientGen.Settings.OfNode
import ClientGen.Json.Pretty
import ClientGen.Yaml.Write
import ClientGen.CommandLine.Arguments
import ClientGen.CommandLine.Help
import ClientGen.CommandLine.Files
import ClientGen.Summary
import ClientGen.CommandLine.Run
import ClientGen.Main
import ClientGen.Proofs.Document.Reference
import ClientGen.Proofs.Model.SchemaGraph
import ClientGen.Proofs.NameSet
import ClientGen.Proofs.Model.Reachability
import ClientGen.Proofs.Outcome
import ClientGen.Proofs.Model.Typing
import ClientGen.Proofs.Model.Composition
import ClientGen.Proofs.Analysis.Run
import ClientGen.Proofs.Model.Build
import ClientGen.Proofs.Analysis.Mentions
import ClientGen.Proofs.Analysis.Orphans
import ClientGen.Proofs.Document.Chain
import ClientGen.Proofs.Document.History
import ClientGen.Proofs.Kotlin.Paths
import ClientGen.Proofs.Analysis.Report
import ClientGen.Proofs.Kotlin.FirstFailure
import ClientGen.Proofs.Analysis.Selection
import ClientGen.Proofs.Kotlin.Selection
import ClientGen.Proofs.Kotlin.CallStyle
import ClientGen.Proofs.Naming
import ClientGen.Proofs.Kotlin.FileNames
import ClientGen.Proofs.CommandLine.Run
import ClientGen.Proofs.CommandLine.Arguments
import ClientGen.Proofs.CommandLine.Verdict
import ClientGen.Proofs.Model.Required
import ClientGen.Proofs.Respelling.Pointwise
import ClientGen.Proofs.Respelling.Schema
import ClientGen.Proofs.Respelling.Model
import ClientGen.Proofs.Respelling.Document
import ClientGen.Proofs.Respelling.Analysis
import ClientGen.Proofs.Model.Merging
import ClientGen.Proofs.Analysis.Parameters
import ClientGen.Proofs.Kotlin.ParameterNames
import ClientGen.Proofs.Kotlin.MemberNames
import ClientGen.Proofs.Kotlin.Imports
import ClientGen.Proofs.Kotlin.TypeImports
import ClientGen.Proofs.Kotlin.Forwarding
import ClientGen.Proofs.Analysis.RequestBody
import ClientGen.Proofs.Kotlin.BodyMarkers
import ClientGen.Proofs.Document.Course
import ClientGen.Proofs.Document.Inlining
import ClientGen.Proofs.Text.Keywords
import ClientGen.Proofs.Document.StatusCode
import ClientGen.Proofs.Document.MediaKind
import ClientGen.Proofs.Endpoint.Inheritance
import ClientGen.Proofs.Endpoint.Negotiation
import ClientGen.Proofs.Text.CasedLetters
import ClientGen.Proofs.Casings
import ClientGen.Proofs.Kotlin.UnescapedNames
import ClientGen.Proofs.Model.SelfInclusion
import ClientGen.Proofs.Analysis.FormModels
import ClientGen.Proofs.Analysis.AliasCycles
import ClientGen.Proofs.Kotlin.Nullability
import ClientGen.Proofs.Kotlin.Defaults
import ClientGen.Proofs.Kotlin.StringLiterals
import ClientGen.Proofs.Kotlin.BlockComments
import ClientGen.Proofs.Kotlin.DocComments
import ClientGen.Proofs.Kotlin.HolderComment
import ClientGen.Proofs.Kotlin.Numerals
import ClientGen.Proofs.Kotlin.WrittenNumbers
import ClientGen.Proofs.Kotlin.EnumLiterals
import ClientGen.Proofs.Analysis.ParameterOrder
import ClientGen.Proofs.Endpoint.Grouping
import ClientGen.Proofs.Kotlin.FunctionNames
import ClientGen.Proofs.Kotlin.Authorization
import ClientGen.Proofs.Kotlin.InterceptorConstants
import ClientGen.Proofs.Kotlin.RelativePaths
import ClientGen.Proofs.Kotlin.QuestionMarks
import ClientGen.Proofs.Document.ReferencePaths
