import PluginFacts.Analysis
import PluginFacts.Batch
import PluginFacts.Capability
import PluginFacts.Class.Basic
import PluginFacts.Class.Json
import PluginFacts.Class.Member
import PluginFacts.Class.Namesakes
import PluginFacts.ClassDirectory
import PluginFacts.ClassFile.Annotation
import PluginFacts.ClassFile.Attribute
import PluginFacts.ClassFile.Basic
import PluginFacts.ClassFile.Cursor
import PluginFacts.ClassFile.Fault
import PluginFacts.ClassFile.Pool
import PluginFacts.ClassFile.TypeName
import PluginFacts.CommandLine.Arguments
import PluginFacts.CommandLine.Program
import PluginFacts.Diagnostic
import PluginFacts.Failure
import PluginFacts.Files.Error
import PluginFacts.Files.Path
import PluginFacts.Files.System
import PluginFacts.Files.Tree
import PluginFacts.FirstOfEach
import PluginFacts.Hierarchy.Basic
import PluginFacts.Hierarchy.Cycle
import PluginFacts.Hierarchy.Registry
import PluginFacts.Input
import PluginFacts.Json.Basic
import PluginFacts.Json.Reader
import PluginFacts.Json.Record
import PluginFacts.Main
import PluginFacts.Manifest
import PluginFacts.Match.Ancestry
import PluginFacts.Match.Basic
import PluginFacts.Proofs.Analysis.BadInputs
import PluginFacts.Proofs.Analysis.Diagnostics
import PluginFacts.Proofs.Analysis.InputOrder
import PluginFacts.Proofs.Analysis.KnownTypes
import PluginFacts.Proofs.Analysis.Nesting
import PluginFacts.Proofs.Analysis.Outcome
import PluginFacts.Proofs.Batch.Accounts
import PluginFacts.Proofs.Batch.Linking
import PluginFacts.Proofs.Batch.Names
import PluginFacts.Proofs.Class.Groups
import PluginFacts.Proofs.Class.Survivors
import PluginFacts.Proofs.ClassFile.Acceptance
import PluginFacts.Proofs.ClassFile.Annotations
import PluginFacts.Proofs.ClassFile.AttributeTables
import PluginFacts.Proofs.ClassFile.Attributes
import PluginFacts.Proofs.ClassFile.Constants
import PluginFacts.Proofs.ClassFile.Layout
import PluginFacts.Proofs.ClassFile.Reads
import PluginFacts.Proofs.ClassFile.Skeleton
import PluginFacts.Proofs.ClassFile.Truncation
import PluginFacts.Proofs.Hierarchy.Bystanders
import PluginFacts.Proofs.Hierarchy.Circle
import PluginFacts.Proofs.Hierarchy.Enclosing
import PluginFacts.Proofs.Hierarchy.Linked
import PluginFacts.Proofs.Hierarchy.Outermost
import PluginFacts.Proofs.Hierarchy.Search
import PluginFacts.Proofs.Hierarchy.Structure
import PluginFacts.Proofs.Hierarchy.Ways
import PluginFacts.Proofs.Json.Numbers
import PluginFacts.Proofs.Json.Records
import PluginFacts.Proofs.Json.Strings
import PluginFacts.Proofs.Json.Values
import PluginFacts.Proofs.Match.Ancestry
import PluginFacts.Proofs.Match.Bystanders
import PluginFacts.Proofs.Match.Description
import PluginFacts.Proofs.Match.Gains
import PluginFacts.Proofs.Match.Locality
import PluginFacts.Proofs.Match.Outline
import PluginFacts.Proofs.Match.RuleChoice
import PluginFacts.Proofs.Match.Subjects
import PluginFacts.Proofs.Report.Faithful
import PluginFacts.Proofs.Rule.Loading
import PluginFacts.Proofs.Sorting
import PluginFacts.Proofs.Text.ModifiedUtf8
import PluginFacts.Proofs.Verdict.Facts
import PluginFacts.Proofs.Verdict.Failures
import PluginFacts.Proofs.Verdict.Outcome
import PluginFacts.Proofs.Verdict.Pins
import PluginFacts.Proofs.Verdict.Selection
import PluginFacts.Proofs.Verdict.Warnings
import PluginFacts.Report.Json
import PluginFacts.Report.Style
import PluginFacts.Report.Terminal
import PluginFacts.Rule.BuiltIn
import PluginFacts.Rule.File
import PluginFacts.Rule.Predicate
import PluginFacts.Rule.Source
import PluginFacts.Rule.Table
import PluginFacts.Settings
import PluginFacts.Text.Blank
import PluginFacts.Text.Quoted
import PluginFacts.Text.Unprintable
import PluginFacts.Text.Utf8
import PluginFacts.Trace.Event
import PluginFacts.Trace.Files
import PluginFacts.Trace.Run
import PluginFacts.Verdict
import PluginFacts.Yaml.Decode
import PluginFacts.Yaml.Document
import PluginFacts.Yaml.Lexer
import PluginFacts.Yaml.Node
import PluginFacts.Yaml.Scalar
import PluginFacts.Yaml.Tag
import PluginFacts.Yaml.Text
import PluginFacts.Yaml.Token
import PluginFacts.Proofs.ClassFile.Indices
import PluginFacts.Proofs.ClassFile.AnnotationDepth
import PluginFacts.Proofs.Files.ClassDirectory
