import SourceAtlas.Unicode.Word
import SourceAtlas.Unicode.Decimal
import SourceAtlas.Unicode.Identifier
import SourceAtlas.Unicode.Printable
import SourceAtlas.Unicode.Case
import SourceAtlas.Unicode.Compatibility
import SourceAtlas.Text.Utf8
import SourceAtlas.Text.Quoted
import SourceAtlas.Text.Lines
import SourceAtlas.Text.Numeral
import SourceAtlas.Fingerprint
import SourceAtlas.Json.Writer
import SourceAtlas.Json.Reader
import SourceAtlas.Policy
import SourceAtlas.Store
import SourceAtlas.Statistics
import SourceAtlas.Regex.Matcher
import SourceAtlas.Regex.Reader
import SourceAtlas.Outline
import SourceAtlas.Ignore.Spec
import SourceAtlas.Source.Lexer
import SourceAtlas.Source.Parse
import SourceAtlas.Source.Expression
import SourceAtlas.Source.Module
import SourceAtlas.Entity
import SourceAtlas.Database
import SourceAtlas.Scan
import SourceAtlas.Analysis
import SourceAtlas.Settings
import SourceAtlas.Command.Run
import SourceAtlas.Main
import SourceAtlas.Proofs.Store.Subtree
import SourceAtlas.Proofs.Json.Strings
import SourceAtlas.Proofs.Json.RoundTrip
import SourceAtlas.Proofs.Analysis.Flight
import SourceAtlas.Proofs.Analysis.History
import SourceAtlas.Proofs.Analysis.Idempotence
import SourceAtlas.Proofs.Analysis.Inclusion
import SourceAtlas.Proofs.Analysis.Reextraction
import SourceAtlas.Proofs.Command.Rebuild
import SourceAtlas.Proofs.Store.Replay
import SourceAtlas.Proofs.Analysis.Failure
import SourceAtlas.Proofs.Analysis.Findings
import SourceAtlas.Proofs.Analysis.Locality
import SourceAtlas.Proofs.Disk.Written
import SourceAtlas.Proofs.Command.Rejection
import SourceAtlas.Proofs.Command.Reports
import SourceAtlas.Proofs.Entity.Nesting
import SourceAtlas.Proofs.Store.Codec
import SourceAtlas.Proofs.Store.Hits
import SourceAtlas.Proofs.Analysis.Healing
import SourceAtlas.Proofs.Analysis.Completion
import SourceAtlas.Proofs.Analysis.Rows
import SourceAtlas.Proofs.Ignore.Named
import SourceAtlas.Proofs.Scan.Monotone
import SourceAtlas.Proofs.Scan.Pruning
import SourceAtlas.Proofs.Ignore.Verdict
import SourceAtlas.Proofs.Regex.Takes
import SourceAtlas.Proofs.Ignore.Shape
import SourceAtlas.Proofs.Scan.Standard
import SourceAtlas.Proofs.Outline.Encoding
import SourceAtlas.Proofs.Analysis.Printing
import SourceAtlas.Proofs.Scan.Comments
import SourceAtlas.Proofs.Entity.Imports
import SourceAtlas.Proofs.Outline.Parts
import SourceAtlas.Proofs.Scan.Links
import SourceAtlas.Proofs.Outline.Indentation
import SourceAtlas.Proofs.Payload.Normal
import SourceAtlas.Proofs.Source.Rows
import SourceAtlas.Proofs.Outline.Signatures
import SourceAtlas.Proofs.Analysis.Mark
import SourceAtlas.Proofs.Store.Separators
import SourceAtlas.Proofs.Command.Place
import SourceAtlas.Proofs.Command.Presentation
