import Gherkin.Call.Basic
import Gherkin.Call.Payload
import Gherkin.Cell
import Gherkin.Check.CommandLine
import Gherkin.Check.FileTree
import Gherkin.Check.FoundFile
import Gherkin.Check.Path
import Gherkin.Check.Report.Basic
import Gherkin.Check.Report.Printer
import Gherkin.Check.Settings
import Gherkin.Diagnostic
import Gherkin.DocString
import Gherkin.Feature.Basic
import Gherkin.Feature.Example
import Gherkin.Feature.OfTree
import Gherkin.Feature.Placeholder
import Gherkin.Feature.PlaceholderPattern
import Gherkin.Feature.Printer
import Gherkin.Hooks.Basic
import Gherkin.Hooks.Bracket
import Gherkin.Hooks.Table
import Gherkin.Language.Basic
import Gherkin.Language.Bundled
import Gherkin.Localization.Loaders
import Gherkin.Localization.Locale
import Gherkin.Localization.Message
import Gherkin.Localization.Selection
import Gherkin.Main
import Gherkin.Number.Binary64
import Gherkin.Number.Decimal
import Gherkin.Parse
import Gherkin.Position
import Gherkin.Proofs.Cell.Rows
import Gherkin.Proofs.Check.FileTree
import Gherkin.Proofs.Check.FoundFile
import Gherkin.Proofs.Check.Overlap
import Gherkin.Proofs.Check.Path
import Gherkin.Proofs.Check.Report.Agreement
import Gherkin.Proofs.Check.Report.Document
import Gherkin.Proofs.Check.Report.Members
import Gherkin.Proofs.Check.Report.Passages
import Gherkin.Proofs.DocString.Content
import Gherkin.Proofs.DocString.Escapes
import Gherkin.Proofs.DocString.Returns
import Gherkin.Proofs.Feature.Blur
import Gherkin.Proofs.Feature.Built
import Gherkin.Proofs.Feature.Described
import Gherkin.Proofs.Feature.Diagnostics
import Gherkin.Proofs.Feature.ExampleWalk
import Gherkin.Proofs.Feature.Framed
import Gherkin.Proofs.Feature.Indentation
import Gherkin.Proofs.Feature.Layout
import Gherkin.Proofs.Feature.LineEndings
import Gherkin.Proofs.Feature.Opening
import Gherkin.Proofs.Feature.Outline
import Gherkin.Proofs.Feature.Placed
import Gherkin.Proofs.Feature.PlaceholderSearch
import Gherkin.Proofs.Feature.Printed
import Gherkin.Proofs.Feature.Records
import Gherkin.Proofs.Feature.Relocation
import Gherkin.Proofs.Feature.Remarks
import Gherkin.Proofs.Feature.ResolvedRendering
import Gherkin.Proofs.Feature.ResolvedSentence
import Gherkin.Proofs.Feature.ResolvedStep
import Gherkin.Proofs.Feature.RoundTrip
import Gherkin.Proofs.Feature.RuledOut
import Gherkin.Proofs.Feature.Shift
import Gherkin.Proofs.Feature.SingleStep
import Gherkin.Proofs.Feature.SqueezedText
import Gherkin.Proofs.Feature.Stencil
import Gherkin.Proofs.Feature.Substitution
import Gherkin.Proofs.Feature.TableLines
import Gherkin.Proofs.Feature.Unplaced
import Gherkin.Proofs.Feature.WellFormed
import Gherkin.Proofs.Hooks.Guards
import Gherkin.Proofs.Hooks.History
import Gherkin.Proofs.Hooks.Observers
import Gherkin.Proofs.Hooks.Passage
import Gherkin.Proofs.Hooks.Places
import Gherkin.Proofs.Hooks.RunOrder
import Gherkin.Proofs.Hooks.Steady
import Gherkin.Proofs.Hooks.Visit
import Gherkin.Proofs.Language.Canonical
import Gherkin.Proofs.Language.Legible
import Gherkin.Proofs.Language.Longest
import Gherkin.Proofs.Localization.Scopes
import Gherkin.Proofs.Readings
import Gherkin.Proofs.Record
import Gherkin.Proofs.Regex.CharSet
import Gherkin.Proofs.Regex.Literal
import Gherkin.Proofs.Regex.Search
import Gherkin.Proofs.Registry.ExampleTrace
import Gherkin.Proofs.Registry.FeatureRun
import Gherkin.Proofs.Registry.ForeignHandles
import Gherkin.Proofs.Registry.Handles
import Gherkin.Proofs.Registry.LinkOrder
import Gherkin.Proofs.Registry.Listing
import Gherkin.Proofs.Registry.Observers
import Gherkin.Proofs.Registry.Positions
import Gherkin.Proofs.Registry.Rollback
import Gherkin.Proofs.Registry.Script
import Gherkin.Proofs.Registry.Sound
import Gherkin.Proofs.Steps.Meeting
import Gherkin.Proofs.Steps.Sentence
import Gherkin.Proofs.Text.Json
import Gherkin.Proofs.Text.Lines
import Gherkin.Proofs.Text.Offsets
import Gherkin.Proofs.Text.Squeeze
import Gherkin.Proofs.Text.Words
import Gherkin.Proofs.Token.Blur
import Gherkin.Proofs.Token.Counted
import Gherkin.Proofs.Token.Detail
import Gherkin.Proofs.Token.Proper
import Gherkin.Proofs.Token.Reach
import Gherkin.Proofs.Token.Relocation
import Gherkin.Proofs.Token.Says
import Gherkin.Proofs.Token.Shift
import Gherkin.Proofs.Token.Strings
import Gherkin.Proofs.Token.Warnings
import Gherkin.Proofs.Tree.Blur
import Gherkin.Proofs.Tree.Completeness
import Gherkin.Proofs.Tree.Derivation
import Gherkin.Proofs.Tree.Grammar
import Gherkin.Proofs.Tree.Leaves
import Gherkin.Proofs.Tree.Parts
import Gherkin.Proofs.Tree.Refusal
import Gherkin.Proofs.Tree.Relocation
import Gherkin.Proofs.Tree.Soundness
import Gherkin.Proofs.Tree.Unplaced
import Gherkin.Proofs.Unicode.CaseMap
import Gherkin.Record
import Gherkin.Regex.Brackets
import Gherkin.Regex.CharSet
import Gherkin.Regex.Expr
import Gherkin.Regex.Footprint
import Gherkin.Regex.Matches
import Gherkin.Regex.Program
import Gherkin.Regex.Reader
import Gherkin.Regex.Search
import Gherkin.Regex.Symbol
import Gherkin.Registry.Basic
import Gherkin.Registry.Run
import Gherkin.StepKind
import Gherkin.Steps.Definition
import Gherkin.Steps.Pattern
import Gherkin.Steps.Sentence
import Gherkin.Text.Basic
import Gherkin.Text.Json
import Gherkin.Text.Quoted
import Gherkin.Token.Basic
import Gherkin.Token.Lexer
import Gherkin.Tree.Basic
import Gherkin.Tree.Parser
import Gherkin.Unicode.Ages
import Gherkin.Unicode.BinaryProperties
import Gherkin.Unicode.Breaks
import Gherkin.Unicode.ByteRows
import Gherkin.Unicode.CaseMap
import Gherkin.Unicode.Categories
import Gherkin.Unicode.Letters
import Gherkin.Unicode.Printing
import Gherkin.Unicode.Property
import Gherkin.Unicode.RangeTable
import Gherkin.Unicode.ScriptExtensions
import Gherkin.Unicode.Scripts
