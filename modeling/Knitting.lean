import Knitting.CommandLine.Argument
import Knitting.CommandLine.Command
import Knitting.CommandLine.Outcome
import Knitting.CommandLine.Reader
import Knitting.Decimal.Basic
import Knitting.Decimal.Double
import Knitting.Decimal.Shortest
import Knitting.Fabric.Action
import Knitting.Fabric.Basic
import Knitting.Fabric.Craft
import Knitting.Fabric.Fault
import Knitting.Fabric.Loom
import Knitting.Fabric.MarkerTable
import Knitting.Fabric.Needle
import Knitting.Fabric.Place
import Knitting.Fabric.StitchRow
import Knitting.Files.Basic
import Knitting.Files.Path
import Knitting.Files.Tree
import Knitting.Format.Document
import Knitting.Format.JsonDecoder
import Knitting.Format.JsonToken
import Knitting.Format.Yaml
import Knitting.Log
import Knitting.Main
import Knitting.Pattern.Basic
import Knitting.Pattern.Descent
import Knitting.Pattern.Listing
import Knitting.Pattern.ParseError
import Knitting.Pattern.Reader
import Knitting.Pattern.Unrolled
import Knitting.Report.Basic
import Knitting.Report.Chart
import Knitting.Report.Encoding
import Knitting.Session.Basic
import Knitting.Session.Record
import Knitting.Session.Store
import Knitting.Settings.Basic
import Knitting.Settings.KeyPath
import Knitting.Settings.Layer
import Knitting.Settings.Setting
import Knitting.Source.Lexeme
import Knitting.Source.Piece
import Knitting.Source.Position
import Knitting.Source.Token
import Knitting.Source.Word
import Knitting.Stitch
import Knitting.Text.Blank
import Knitting.Text.Cased
import Knitting.Text.CodeRange
import Knitting.Text.Count
import Knitting.Text.DecimalDigit
import Knitting.Text.Hexadecimal
import Knitting.Text.Letter
import Knitting.Text.Lowercase
import Knitting.Text.Quoted
import Knitting.Text.Visible
import Knitting.Toml.Reader
import Knitting.Toml.Scalar
import Knitting.Toml.Table
import Knitting.Toml.Token
import Knitting.Proofs.Row.Craft
import Knitting.Proofs.Row.Progress
import Knitting.Proofs.Fabric.Calls
import Knitting.Proofs.Fabric.Joined
import Knitting.Proofs.Fabric.Rows
import Knitting.Proofs.Row.EarlyStop
import Knitting.Proofs.Source.Literals
import Knitting.Proofs.Source.Meaning
import Knitting.Proofs.Pattern.Grammar
import Knitting.Proofs.Pattern.Unambiguous
import Knitting.Proofs.Pattern.Derived
import Knitting.Proofs.Pattern.Retraced
import Knitting.Proofs.Pattern.Language
import Knitting.Proofs.Pattern.Writable
import Knitting.Proofs.Source.Classes
import Knitting.Proofs.Source.Spaced
import Knitting.Proofs.Pattern.Spelling
import Knitting.Proofs.Pattern.RoundTrip
import Knitting.Proofs.Fabric.FirstFault
import Knitting.Proofs.Fabric.Loom
import Knitting.Proofs.Row.Written
import Knitting.Proofs.Fabric.Verdict
import Knitting.Proofs.Row.Renumbered
import Knitting.Proofs.Fabric.Survivors
import Knitting.Proofs.Fabric.Unmarked
import Knitting.Proofs.Fabric.Journal
import Knitting.Proofs.Fabric.Reworked
import Knitting.Proofs.Pattern.Unfinished
import Knitting.Proofs.Row.Snags
import Knitting.Proofs.Fabric.Mishaps
import Knitting.Proofs.Fabric.Tally
import Knitting.Proofs.Source.Relocated
import Knitting.Proofs.Pattern.Relocated
import Knitting.Proofs.Fabric.Layout
import Knitting.Proofs.Fabric.Regrouped
import Knitting.Proofs.Fabric.Numbered
import Knitting.Proofs.Pattern.Blame
import Knitting.Proofs.Pattern.Numerals
import Knitting.Fabric.Counter
import Knitting.Proofs.Fabric.Counter
import Knitting.Proofs.Fabric.Filled
import Knitting.Proofs.Format.JsonWritten
import Knitting.Proofs.Format.JsonTaken
import Knitting.Proofs.Files.Tree
import Knitting.Proofs.Files.Path
import Knitting.Proofs.Session.Record
import Knitting.Proofs.Session.Store
import Knitting.Proofs.Session.Kept
import Knitting.Proofs.Session.Steps
import Knitting.Proofs.Session.Runs
import Knitting.Proofs.Session.Consistent
import Knitting.Proofs.Session.Numbers
import Knitting.Proofs.Fabric.Foretold
import Knitting.Proofs.Fabric.StitchRuns
import Knitting.Proofs.Source.Scanned
import Knitting.Proofs.Source.Placed
import Knitting.Proofs.Pattern.RowLines
import Knitting.Proofs.Report.Chart
import Knitting.Proofs.Pattern.Descent
import Knitting.Proofs.Pattern.Resumed
import Knitting.Proofs.Text.Cancel
import Knitting.Proofs.Text.Lines
import Knitting.Proofs.Text.Digits
import Knitting.Proofs.Pattern.Openings
import Knitting.Proofs.Report.Alternation
import Knitting.Proofs.Report.Images
import Knitting.Proofs.Report.Listing
import Knitting.Proofs.Files.Made
import Knitting.Proofs.Session.Unchanged
import Knitting.Proofs.Source.Patterns
import Knitting.Proofs.Fabric.Course
import Knitting.Proofs.Settings.Merged
import Knitting.Proofs.Settings.Placed
import Knitting.Proofs.Settings.Precedence
