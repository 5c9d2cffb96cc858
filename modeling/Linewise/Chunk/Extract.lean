import Linewise.Chunk.Basic
import Linewise.Chunk.Keywords
import Linewise.Code.Block
import Linewise.Text.Quote
/-! Extracting chunks. Blocks whose lowercase text holds a term are selected, else a pinned class,
else up to two class blocks and one other; their ranges are sorted, merged when within the
context distance, and widened by the context lines into chunks. Imports are the lines among the
first fifty that start with `import ` or `from `. -/
namespace Linewise.Chunk

open Code

/-- The text of a block's lines, its end clipped to the text; empty when it starts past it. -/
def blockText (lines : List String) (b : Block) : String :=
  if lines.isEmpty || lines.length ≤ b.startLine then ""
  else Text.joinLines (slice lines b.startLine (min b.endLine (lines.length - 1) + 1))

def matchingBlocks (lines : List String) (terms : List String) (blocks : List Block) : List Block :=
  blocks.filter fun b =>
    let text := Text.toLower (blockText lines b)
    terms.any fun t => Text.contains text t

/-- The pinned class block, when a term mentions the class. -/
def pinnedBlock (lines : List String) (terms : List String) (blocks : List Block) :
    Option String → Option Block
  | none => none
  | some name =>
    if terms.any (fun t => Text.contains t (Text.toLower name)) then
      blocks.find? fun b => Text.contains (blockText lines b) ("class " ++ name)
    else none

/-- The broad choice: the first two class blocks, then the first other block. -/
def broadBlocks (blocks : List Block) : List Block :=
  (blocks.filter (·.kind == .classDef)).take 2 ++ (blocks.filter (·.kind != .classDef)).take 1

def selectBlocks (lines terms : List String) (blocks : List Block) (pinned : Option String) :
    List Block :=
  match matchingBlocks lines terms blocks with
  | [] =>
    match pinnedBlock lines terms blocks pinned with
    | some b => [b]
    | none => broadBlocks blocks
  | bs => bs

def sortRanges (rs : List (Nat × Nat)) : List (Nat × Nat) :=
  rs.mergeSort fun a b => a.1 < b.1 || (a.1 == b.1 && a.2 ≤ b.2)

/-- Merges sorted ranges from `cur` on: a range starting within `distance` after the current
range's end extends it. -/
def mergeSorted (distance : Nat) : Nat × Nat → List (Nat × Nat) → List (Nat × Nat)
  | cur, [] => [cur]
  | cur, r :: rs =>
    if r.1 ≤ cur.2 + distance then mergeSorted distance (cur.1, max cur.2 r.2) rs
    else cur :: mergeSorted distance r rs

def mergeRanges (rs : List (Nat × Nat)) (distance : Nat) : List (Nat × Nat) :=
  match sortRanges rs with
  | [] => []
  | r :: rest => mergeSorted distance r rest

/-- The chunk around the target range `[ts, te]`; none when the text is empty or the target
starts past its end. -/
def buildChunk (lines : List String) (ts te : Nat) (path : String) (context : Nat) :
    Option CodeChunk :=
  if lines.isEmpty || lines.length ≤ ts then none
  else
    let last := lines.length - 1
    let te := min te last
    let startLine := ts - context
    let endLine := min (te + context) last
    let signature := ((slice lines ts (te + 1)).map Text.trim).find? (!·.isEmpty)
    some { startLine, endLine
           content := Text.joinLines (slice lines startLine (endLine + 1))
           signature := signature.getD ""
           filePath := path
           contextBefore := Text.joinLines (slice lines startLine ts)
           contextAfter := if te < endLine then Text.joinLines (slice lines (te + 1) (endLine + 1)) else ""
           targetStart := ts
           targetEnd := te }

/-- The chunks of a text relevant to keywords, blocks found by `src`. -/
def extractChunksWith (src : BlockSource) (content : String) (keywords : List String) (path : String)
    (opts : ChunkOptions) : List CodeChunk :=
  let lines := Text.lines content
  let terms := expandKeywords keywords
  let selected := selectBlocks lines terms (findBlocks src content) opts.pinnedClass
  (mergeRanges (selected.map fun b => (b.startLine, b.endLine)) opts.contextLines).filterMap
    fun (s, e) => buildChunk lines s e path opts.contextLines

/-- Machine-word addition as the built tool does it: a sum past the largest word wraps around. -/
def wordAdd (a b : Nat) : Nat := (a + b) % UInt64.size

def termsText (terms : List String) : String :=
  "\x7b" ++ ", ".intercalate (terms.map Text.quoted) ++ "\x7d"

def extractChunksLog (src : BlockSource) (content : String) (keywords : List String) (path : String)
    (opts : ChunkOptions) : List LogEntry :=
  let lines := Text.lines content
  let terms := expandKeywords keywords
  let blocks := findBlocks src content
  let head := LogEntry.trace ("  Expanded keywords for '" ++ path ++ "': " ++ termsText terms) ::
    findBlocksLog src content
  let matched := matchingBlocks lines terms blocks
  let pinned := if matched.isEmpty then pinnedBlock lines terms blocks opts.pinnedClass else none
  let pinnedLog := match pinned, opts.pinnedClass with
    | some b, some name =>
      [LogEntry.debug ("  Using pinned class '" ++ name ++ "' at lines " ++
        Nat.repr (wordAdd b.startLine 1) ++ "-" ++ Nat.repr (wordAdd b.endLine 1))]
    | _, _ => []
  let broad := matched.isEmpty && pinned.isNone
  let broadLog := if broad then
      [LogEntry.info ("  No keyword matches, trying broader search in " ++ path)] else []
  let selected := selectBlocks lines terms blocks opts.pinnedClass
  let tail := if selected.isEmpty then [LogEntry.info ("  No code blocks found in " ++ path)]
    else
      let merged := mergeRanges (selected.map fun b => (b.startLine, b.endLine)) opts.contextLines
      [LogEntry.debug ("  " ++ Nat.repr selected.length ++ " block(s) merged into " ++
        Nat.repr merged.length ++ " chunk(s) for '" ++ path ++ "'")]
  head ++ pinnedLog ++ broadLog ++ tail

def extractImports (content : String) : List String :=
  ((Text.lines content).take 50).map Text.trim |>.filter fun l =>
    Text.startsWith l "import " || Text.startsWith l "from "

end Linewise.Chunk
