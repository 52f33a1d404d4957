import ImportLookup.Binary64
import ImportLookup.ByteSize
import ImportLookup.Cli.Arguments
import ImportLookup.Cli.Distance
import ImportLookup.Cli.Flag
import ImportLookup.Cli.Help
import ImportLookup.Cli.Paragraph
import ImportLookup.Cli.Program
import ImportLookup.Cli.Whole
import ImportLookup.Command
import ImportLookup.Diff.Compare
import ImportLookup.Diff.Edit
import ImportLookup.Diff.Halves
import ImportLookup.Diff.Merge
import ImportLookup.Disk
import ImportLookup.Failure
import ImportLookup.Json.KeyPath
import ImportLookup.Json.Numeral
import ImportLookup.Json.Quoted
import ImportLookup.Json.Reader
import ImportLookup.Lines
import ImportLookup.Log.Line
import ImportLookup.Log.Record
import ImportLookup.Main
import ImportLookup.Markdown.Address
import ImportLookup.Markdown.Block
import ImportLookup.Markdown.Character
import ImportLookup.Markdown.Document
import ImportLookup.Markdown.Entity
import ImportLookup.Markdown.Escape
import ImportLookup.Markdown.Frame
import ImportLookup.Markdown.Html
import ImportLookup.Markdown.Inline
import ImportLookup.Markdown.Line
import ImportLookup.Markdown.Link
import ImportLookup.Markdown.Mark
import ImportLookup.Markdown.Outline
import ImportLookup.Markdown.Reading
import ImportLookup.Markdown.Table
import ImportLookup.Markdown.Tag
import ImportLookup.Path
import ImportLookup.Proofs.CleanPath
import ImportLookup.Proofs.Conversion
import ImportLookup.Proofs.DiskShape
import ImportLookup.Proofs.DryRun
import ImportLookup.Proofs.FileRun
import ImportLookup.Proofs.ImportShape
import ImportLookup.Proofs.LineCut
import ImportLookup.Proofs.Pieces
import ImportLookup.Proofs.RunTrace
import ImportLookup.Proofs.SecondPass
import ImportLookup.Proofs.Stopping
import ImportLookup.Proofs.TreeEffect
import ImportLookup.Proofs.TreeShape
import ImportLookup.Report.Format
import ImportLookup.Report.Html
import ImportLookup.Report.Plain
import ImportLookup.Report.Yaml
import ImportLookup.Run
import ImportLookup.Selection
import ImportLookup.Settings
import ImportLookup.Statement
import ImportLookup.Summary
import ImportLookup.Text.Bytes
import ImportLookup.Text.Case
import ImportLookup.Text.Cluster
import ImportLookup.Text.Fold
import ImportLookup.Text.Pattern
import ImportLookup.Text.Printable
import ImportLookup.Text.Punctuation
import ImportLookup.Text.Quoted
import ImportLookup.Text.Ranges
import ImportLookup.Text.Utf8
import ImportLookup.Text.Width
import ImportLookup.Timestamp
import ImportLookup.Toml.Document
import ImportLookup.Toml.Number
import ImportLookup.Toml.Quoted
import ImportLookup.Toml.Syntax
import ImportLookup.Tree.Basic
import ImportLookup.Tree.Walk
import ImportLookup.Version
import ImportLookup.Watcher
import ImportLookup.Yaml.Scalar
import ImportLookup.Proofs.KeyLookup
import ImportLookup.Proofs.JsonScalar
import ImportLookup.Proofs.JsonText
import ImportLookup.Proofs.PlaceChange
import ImportLookup.Proofs.WatchEcho
import ImportLookup.Proofs.WatchDelivery
import ImportLookup.Proofs.WatchStartup
import ImportLookup.Proofs.Debounce
import ImportLookup.Proofs.ByteAccount
import ImportLookup.Proofs.Precedence
import ImportLookup.Proofs.Reporting
import ImportLookup.Proofs.ImportLines
import ImportLookup.Proofs.Undoing
import ImportLookup.Proofs.PathWalk
import ImportLookup.Proofs.RunScope
import ImportLookup.Proofs.CleanWalk
import ImportLookup.Proofs.SelectedEntries
import ImportLookup.Proofs.LineRecord
import ImportLookup.Proofs.LineBoundaries
import ImportLookup.Proofs.JsonReading
import ImportLookup.Proofs.CutText
import ImportLookup.Proofs.MissingKey
import ImportLookup.Proofs.EnoughText
import ImportLookup.Proofs.Patterns
import ImportLookup.Proofs.ValidSettings
import ImportLookup.Proofs.SelectionTests
import ImportLookup.Proofs.FlushOrder
import ImportLookup.Proofs.ScriptViews
import ImportLookup.Proofs.Comparison
import ImportLookup.Proofs.ShownChanges
import ImportLookup.Proofs.Logging
import ImportLookup.Proofs.ReportFigures
import ImportLookup.Proofs.TableShape
import ImportLookup.Proofs.SettingsLayers
import ImportLookup.Proofs.WaitingTime
import ImportLookup.Proofs.SearchLoop
import ImportLookup.Proofs.PlainReport
