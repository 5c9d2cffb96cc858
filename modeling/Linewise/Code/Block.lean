import Linewise.Text.Blank
import Linewise.Text.Lines
import Linewise.Text.Search
import Linewise.Log
/-! Function- and class-like blocks of source text, as inclusive 0-based line ranges. A block
source is asked first; else lines are scanned for declaration headers, each block running over
the following lines that are blank or indented deeper, and stopping before the next header. -/
namespace Linewise

inductive BlockKind where
  | function
  | classDef
  | unknown
  deriving DecidableEq, Repr, Inhabited

def BlockKind.name : BlockKind → String
  | .function => "Function"
  | .classDef => "Class"
  | .unknown => "Unknown"

/-- A block: its kind and first and last line. -/
structure Block where
  kind : BlockKind
  startLine : Nat
  endLine : Nat
  deriving DecidableEq, Repr, Inhabited

/-- Something that may find the blocks of a text, with what it logs while trying. -/
structure BlockSource where
  parse : String → Option (List Block)
  parseLog : String → List LogEntry := fun _ => []

namespace Code

def headerKeyword (keys : List String) (line : String) : Option String :=
  let rest := Text.trimStart line
  keys.find? fun k => Text.startsWith rest k

def declarationKeywords : List String := ["def ", "class ", "function ", "const ", "let ", "var "]

def blockKeywords : List String := ["def ", "class ", "function "]

def kindOfKeyword (k : String) : BlockKind :=
  if k == "class " then .classDef
  else if k == "def " || k == "function " then .function
  else .unknown

/-- The last line of the block whose header is line `start`: the header and every following
line that is blank or indented deeper, up to the first that is neither. -/
def blockEndByIndentation (lines : List String) (start : Nat) : Nat :=
  match lines[start]? with
  | none => start
  | some header =>
    let depth := Text.indentation header
    let follow := (lines.drop (start + 1)).takeWhile fun l =>
      Text.isBlankText l || depth < Text.indentation l
    start + follow.length

def headerStarts (lines : List String) : List (Nat × BlockKind) :=
  lines.zipIdx.filterMap fun (l, i) => (headerKeyword declarationKeywords l).map fun k => (i, kindOfKeyword k)

/-- Blocks found by scanning for headers; each ends by indentation, and before the next header. -/
def headerBlocks (lines : List String) : List Block :=
  let starts := headerStarts lines
  let nexts := (starts.drop 1).map (some ·.1) ++ [none]
  (starts.zip nexts).map fun ((s, k), next) =>
    let scanEnd := match next with
      | some n => n - 1
      | none => lines.length - 1
    ⟨k, s, min (blockEndByIndentation lines s) scanEnd⟩

def headerBlocksLog (lines : List String) : List LogEntry :=
  (headerBlocks lines).map fun b =>
    LogEntry.trace ("    Header block " ++ b.kind.name ++ " at " ++ Nat.repr b.startLine ++ "..=" ++
      Nat.repr b.endLine)

/-- The blocks of a text: the source's answer, else the header scan. -/
def findBlocks (src : BlockSource) (content : String) : List Block :=
  match src.parse content with
  | some bs => bs
  | none => headerBlocks (Text.lines content)

def findBlocksLog (src : BlockSource) (content : String) : List LogEntry :=
  src.parseLog content ++
    match src.parse content with
    | some bs => [LogEntry.debug ("    Structural parse found " ++ Nat.repr bs.length ++ " block(s).")]
    | none =>
      let lines := Text.lines content
      headerBlocksLog lines ++
        [LogEntry.debug ("    Header scan found " ++ Nat.repr (headerBlocks lines).length ++ " block(s).")]

/-- The nearest line at or above `line` (clamped to the text) that opens a function or class;
`line` itself when there is none. -/
def enclosingBlockStart (lines : List String) (line : Nat) : Nat :=
  if lines.isEmpty then line
  else
    let top := min line (lines.length - 1)
    let candidates := (List.range (top + 1)).reverse
    match candidates.find? fun i => (headerKeyword blockKeywords (lines[i]?.getD "")).isSome with
    | some i => i
    | none => line

end Code

end Linewise
