import PlaybookRepair.Action
import PlaybookRepair.Ambiguity
import PlaybookRepair.Catalog.Keyword
import PlaybookRepair.Catalog.ShellFamily
import PlaybookRepair.CommandLine
import PlaybookRepair.CommandLine.Arguments
import PlaybookRepair.Config
import PlaybookRepair.Config.Reading
import PlaybookRepair.Config.Writing
import PlaybookRepair.Expansion
import PlaybookRepair.FileError
import PlaybookRepair.FileKind
import PlaybookRepair.FileKind.Detection
import PlaybookRepair.FileTree
import PlaybookRepair.FileTree.Document
import PlaybookRepair.GlobPattern
import PlaybookRepair.InlineValue
import PlaybookRepair.KeyedLine
import PlaybookRepair.Log
import PlaybookRepair.Main
import PlaybookRepair.MetaRebuild
import PlaybookRepair.Nesting
import PlaybookRepair.Number.Binary64
import PlaybookRepair.Number.Numeral
import PlaybookRepair.Outcome
import PlaybookRepair.Path
import PlaybookRepair.Proofs.Escalation
import PlaybookRepair.Proofs.Rebuild.Containment
import PlaybookRepair.Proofs.Rebuild.Content
import PlaybookRepair.Proofs.SecondRepair
import PlaybookRepair.Proofs.ShellBlock
import PlaybookRepair.Proofs.Text.Trim
import PlaybookRepair.Proofs.Tracker.Effect
import PlaybookRepair.Rebuild
import PlaybookRepair.Repair
import PlaybookRepair.Report
import PlaybookRepair.Role
import PlaybookRepair.Run
import PlaybookRepair.ShellBlock
import PlaybookRepair.Text.Basic
import PlaybookRepair.Text.CharRanges
import PlaybookRepair.Text.Line
import PlaybookRepair.Text.Plain
import PlaybookRepair.Text.Quoted
import PlaybookRepair.Toml.Document
import PlaybookRepair.Toml.QuotedString
import PlaybookRepair.Toml.Scalar
import PlaybookRepair.Toml.Table
import PlaybookRepair.Toml.Value
import PlaybookRepair.Tracker
import PlaybookRepair.VarsRebuild
import PlaybookRepair.Verification
import PlaybookRepair.World
import PlaybookRepair.WritePolicy
import PlaybookRepair.WrittenLine
import PlaybookRepair.Yaml.BlockScalar
import PlaybookRepair.Yaml.Cursor
import PlaybookRepair.Yaml.Directive
import PlaybookRepair.Yaml.Document
import PlaybookRepair.Yaml.Event
import PlaybookRepair.Yaml.Gap
import PlaybookRepair.Yaml.PlainScalar
import PlaybookRepair.Yaml.QuotedScalar
import PlaybookRepair.Yaml.Reading
import PlaybookRepair.Yaml.Resolution
import PlaybookRepair.Yaml.SyntaxError
import PlaybookRepair.Yaml.Tag
import PlaybookRepair.Yaml.Token
import PlaybookRepair.Yaml.TokenStream
import PlaybookRepair.Yaml.Value
import PlaybookRepair.Proofs.Tracker.Layout
import PlaybookRepair.Proofs.Rebuild.Layout
import PlaybookRepair.Proofs.Tracker.Task
import PlaybookRepair.Proofs.Rebuild.Scope
import PlaybookRepair.Proofs.Rebuild.Rejoining
import PlaybookRepair.Proofs.Tidy.Line
import PlaybookRepair.Proofs.Tidy.Standing
import PlaybookRepair.Proofs.Tidy.Recovery
import PlaybookRepair.Proofs.Tidy.TaskList
import PlaybookRepair.Proofs.Outline.Document
import PlaybookRepair.Proofs.TaskAction.Run
import PlaybookRepair.Proofs.Rebuild.Meta
import PlaybookRepair.Proofs.Rebuild.Vars
import PlaybookRepair.Proofs.ScalarBlock
import PlaybookRepair.Proofs.Run.Parallel
import PlaybookRepair.Proofs.Rebuild.FlatVars
import PlaybookRepair.Proofs.Rebuild.KeyedText
import PlaybookRepair.Proofs.Rebuild.Salvage
import PlaybookRepair.Proofs.Rebuild.Comments
import PlaybookRepair.Proofs.Yaml.Escapes
import PlaybookRepair.Proofs.FileTree.Survey
import PlaybookRepair.Proofs.InlineCommand
import PlaybookRepair.Proofs.Run.Scan
import PlaybookRepair.Proofs.Toml.QuotedString
import PlaybookRepair.Proofs.Toml.Scalar
import PlaybookRepair.Proofs.Toml.Document
import PlaybookRepair.Proofs.Toml.Table
import PlaybookRepair.Proofs.Config.Text
import PlaybookRepair.Proofs.Config.Saving
import PlaybookRepair.Proofs.Rebuild.Margin
import PlaybookRepair.Proofs.Rebuild.SharedKeyword
import PlaybookRepair.Proofs.Rebuild.Documents
import PlaybookRepair.Proofs.Rebuild.SuppliedTasks
import PlaybookRepair.Proofs.FileKind.Preamble
import PlaybookRepair.Proofs.Rebuild.Lookahead
import PlaybookRepair.Proofs.Run.Division
import PlaybookRepair.Proofs.CommandLine.Collection
import PlaybookRepair.Proofs.Rebuild.LineEndings
import PlaybookRepair.Proofs.Rebuild.Reports
import PlaybookRepair.Proofs.Rebuild.Ending
import PlaybookRepair.Proofs.Rebuild.BlankRuns
import PlaybookRepair.Proofs.KeyedLine.Grammar
import PlaybookRepair.Proofs.Rebuild.Coherence
import PlaybookRepair.Proofs.Rebuild.Columns
