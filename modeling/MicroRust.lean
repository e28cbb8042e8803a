import MicroRust.Command.Run
import MicroRust.Main
import MicroRust.Proofs.Parsing.RoundTrip
import MicroRust.Proofs.Parsing.ValidPrefix
import MicroRust.Proofs.Source.Places
import MicroRust.Source.LineReader
import MicroRust.Proofs.Source.LineReader
import MicroRust.Proofs.Token.Tiling
import MicroRust.Token.Request
import MicroRust.Proofs.Token.Request
import MicroRust.Proofs.Tree.Parts
import MicroRust.Proofs.Parsing.Spans
import MicroRust.Proofs.Parsing.Errors
import MicroRust.Proofs.Parsing.Repair
import MicroRust.Proofs.Token.Concatenation
import MicroRust.Proofs.Parsing.Concatenation
import MicroRust.Proofs.Source.Lines
import MicroRust.Proofs.Token.Excerpt
import MicroRust.Proofs.Command.FrontEnd
import MicroRust.Proofs.Parsing.Ending
import MicroRust.Proofs.Diagnostic.Limit
import MicroRust.Proofs.Tree.Faults
import MicroRust.Proofs.Source.Snippet
import MicroRust.Proofs.Diagnostic.Places
import MicroRust.Proofs.Diagnostic.Order
import MicroRust.Proofs.Diagnostic.Earliest
import MicroRust.Proofs.Command.Scheduling
import MicroRust.Proofs.Token.Longest
import MicroRust.Proofs.Token.Layout
import MicroRust.Proofs.Descent.Agreement
import MicroRust.Proofs.Declaration.Backend
import MicroRust.Proofs.Diagnostic.Sorting
import MicroRust.Proofs.Source.Carets
import MicroRust.Proofs.Text.ByteOrder
import MicroRust.Proofs.Parsing.Alternatives
import MicroRust.Proofs.Tree.Calls
import MicroRust.Proofs.Declaration.Calls
import MicroRust.Proofs.Source.Gutter
import MicroRust.Proofs.Source.PageWidth
import MicroRust.Proofs.Diagnostic.Colour
import MicroRust.Proofs.Diagnostic.LintOrder
import MicroRust.Proofs.Token.Integer
import MicroRust.Proofs.Text.Controls
import MicroRust.Proofs.Token.Identifier
import MicroRust.Proofs.Tree.NodeText
import MicroRust.Proofs.Tree.Preorder
import MicroRust.Proofs.Tree.Drawing
import MicroRust.Proofs.Source.Cursor
import MicroRust.Proofs.Source.Union
