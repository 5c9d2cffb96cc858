import Linewise.Align.Myers
import Linewise.Align.Run
import Linewise.Align.Segment
import Linewise.Align.Slide
import Linewise.Align.Unified
import Linewise.Chunk.Basic
import Linewise.Chunk.Codec
import Linewise.Chunk.Extract
import Linewise.Chunk.Keywords
import Linewise.Chunk.Relocate
import Linewise.Cli.Grammar
import Linewise.Cli.Parse
import Linewise.Cli.Run
import Linewise.Cli.Spec
import Linewise.Cli.Usage
import Linewise.Cli.Workspace
import Linewise.Code.Block
import Linewise.Code.Syntax
import Linewise.Decimal.Shortest
import Linewise.FileMap
import Linewise.Fix.Check
import Linewise.Fix.Run
import Linewise.Json.Cursor
import Linewise.Json.Decode
import Linewise.Json.Print
import Linewise.Json.Read
import Linewise.Json.Stream
import Linewise.Json.Value
import Linewise.Log
import Linewise.Main
import Linewise.Patch.Codec
import Linewise.Patch.Create
import Linewise.Patch.Edit
import Linewise.Patch.Preview
import Linewise.Patch.Validate
import Linewise.Python.Blocks
import Linewise.Python.Expression
import Linewise.Python.Reader
import Linewise.Python.Source
import Linewise.Python.Statement
import Linewise.Text.Blank
import Linewise.Text.Identifier
import Linewise.Text.Lines
import Linewise.Text.Lowercase
import Linewise.Text.Ranges
import Linewise.Text.Quote
import Linewise.Text.Search
import Linewise.Text.Similarity
import Linewise.Text.StringSet
import Linewise.Proofs.Chunk.Apply
import Linewise.Proofs.Chunk.Extraction
import Linewise.Proofs.Chunk.Merge
import Linewise.Proofs.Fix.Delivery
import Linewise.Proofs.Align.EditGraph
import Linewise.Proofs.Align.MiddleSnake
import Linewise.Proofs.Align.Runs
import Linewise.Proofs.Align.Slides
import Linewise.Proofs.Align.SlidesEnd
import Linewise.Proofs.Align.Segments
import Linewise.Proofs.Align.Shortest
import Linewise.Proofs.Align.Optimal
import Linewise.Proofs.Chunk.Placement
import Linewise.Proofs.Chunk.Relocation
import Linewise.Proofs.Chunk.Report
import Linewise.Proofs.Code.Headers
import Linewise.Proofs.Code.Indentation
import Linewise.Proofs.Code.Structure
import Linewise.Proofs.Json.ChunkText
import Linewise.Proofs.Cli.RoundTrip
import Linewise.Proofs.Patch.Coverage
import Linewise.Proofs.Patch.Keys
import Linewise.Proofs.Patch.Preview
import Linewise.Proofs.Patch.Reading
import Linewise.Proofs.Patch.Report
import Linewise.Proofs.Patch.Segments
import Linewise.Proofs.Patch.Validity
import Linewise.Proofs.Text.Layout
import Linewise.Proofs.Text.Search
