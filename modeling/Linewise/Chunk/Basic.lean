import Linewise.Text.Lines
/-! Code chunks. A chunk is a target range of lines (a block or several merged ones) widened by
context lines on both sides. It keeps the widened text, the first non-blank line of the target
as its signature, the context before and after the target, and where all of it was. -/
namespace Linewise

/-- A piece of a file around a target range, with what is needed to find it again. -/
structure CodeChunk where
  startLine : Nat
  endLine : Nat
  content : String
  signature : String
  filePath : String
  contextBefore : String
  contextAfter : String
  targetStart : Nat
  targetEnd : Nat
  deriving DecidableEq, Repr, Inhabited

/-- Options of chunk extraction and relocation. -/
structure ChunkOptions where
  contextLines : Nat := 10
  pinnedClass : Option String := none
  deriving DecidableEq, Repr, Inhabited

def slice {α : Type} (xs : List α) (a b : Nat) : List α := (xs.drop a).take (b - a)

/-- The target's lines of a chunk's content, found by the offsets of the target within the
chunk; empty when the offsets leave nothing. -/
def CodeChunk.coreText (c : CodeChunk) : String :=
  let ls := Text.lines c.content
  let lo := c.targetStart - c.startLine
  let hi := min (c.targetEnd - c.startLine + 1) ls.length
  if hi ≤ lo then "" else Text.joinLines (slice ls lo hi)

end Linewise
