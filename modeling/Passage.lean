import Passage.CommandLine.Arguments
import Passage.CommandLine.Invocation
import Passage.CommandLine.Run
import Passage.CommandLine.Usage
import Passage.Config.Basic
import Passage.Config.Load
import Passage.Config.Toml
import Passage.Content
import Passage.Dialogue.Command
import Passage.Dialogue.Turn
import Passage.Document
import Passage.Error
import Passage.Extraction.Exchange
import Passage.Extraction.Service
import Passage.Files.Disk
import Passage.Files.Path
import Passage.Json.Reader
import Passage.Json.Value
import Passage.Json.Views
import Passage.Main
import Passage.Match.Mark
import Passage.Match.Occurrence
import Passage.Match.Pattern
import Passage.Numeral
import Passage.Numeral.Digit
import Passage.Numeral.Fixed
import Passage.Paging
import Passage.Proofs.CommandLine.OneShot
import Passage.Proofs.Config.Fields
import Passage.Proofs.Config.Layers
import Passage.Proofs.Config.Shown
import Passage.Proofs.Config.Validity
import Passage.Proofs.Dialogue.Command
import Passage.Proofs.Dialogue.Fold
import Passage.Proofs.Dialogue.Framing
import Passage.Proofs.Dialogue.Grammar
import Passage.Proofs.Document.Counts
import Passage.Proofs.Document.Joining
import Passage.Proofs.Document.Paragraphs
import Passage.Proofs.Extraction.Request
import Passage.Proofs.Json.Reading
import Passage.Proofs.Json.Views
import Passage.Proofs.Match.Among
import Passage.Proofs.Match.Expression
import Passage.Proofs.Match.Greedy
import Passage.Proofs.Match.Inside
import Passage.Proofs.Match.Joined
import Passage.Proofs.Match.Marked
import Passage.Proofs.Match.Occurs
import Passage.Proofs.Match.Pieces
import Passage.Proofs.Match.Satisfies
import Passage.Proofs.Match.Separate
import Passage.Proofs.Match.Source
import Passage.Proofs.Numeral
import Passage.Proofs.Numeral.Grouped
import Passage.Proofs.Paging
import Passage.Proofs.Paging.Words
import Passage.Proofs.Query.Alike
import Passage.Proofs.Query.RoundTrip
import Passage.Proofs.Query.Segmentation
import Passage.Proofs.Query.Sorting
import Passage.Proofs.Query.Written
import Passage.Proofs.Search.Agreement
import Passage.Proofs.Search.Exclusion
import Passage.Proofs.Search.IgnoredCase
import Passage.Proofs.Search.Meaning
import Passage.Proofs.Search.Narrowing
import Passage.Proofs.Session.FailedLoads
import Passage.Proofs.Session.History
import Passage.Proofs.Session.Invariant
import Passage.Proofs.Session.Navigation
import Passage.Proofs.Session.Run
import Passage.Proofs.Terminal.Coloured
import Passage.Proofs.Terminal.Highlighted
import Passage.Proofs.Terminal.OwnMarkers
import Passage.Proofs.Terminal.Unmark
import Passage.Proofs.Terminal.Visible
import Passage.Proofs.Text.AsciiCase
import Passage.Proofs.Text.CaseFold
import Passage.Proofs.Text.Lines
import Passage.Proofs.Text.Trim
import Passage.Proofs.Text.Utf8
import Passage.Proofs.Toml.Lines
import Passage.Proofs.Toml.Strings
import Passage.Proofs.Toml.Tables
import Passage.Proofs.Toml.Values
import Passage.Proofs.Url.Percent
import Passage.Proofs.Url.Tail
import Passage.Query.Term
import Passage.Query.Token
import Passage.Search
import Passage.Session
import Passage.Terminal.Highlight
import Passage.Terminal.Style
import Passage.Terminal.Views
import Passage.Text.Blank
import Passage.Text.CaseFold
import Passage.Text.CombiningClass
import Passage.Text.Composites
import Passage.Text.Lines
import Passage.Text.Normal
import Passage.Text.Ranges
import Passage.Text.Utf8
import Passage.Text.Word
import Passage.Toml.Document
import Passage.Toml.Printer
import Passage.Toml.Reader
import Passage.Toml.Scalar
import Passage.Url.Basic
import Passage.Url.Domain
import Passage.Url.Domain.Classes
import Passage.Url.Domain.Mapping
import Passage.Url.Host
import Passage.Url.Percent
import Passage.Url.Punycode
