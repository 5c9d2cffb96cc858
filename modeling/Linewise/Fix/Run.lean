import Linewise.Fix.Check
import Linewise.Chunk.Extract
import Linewise.Chunk.Relocate
import Linewise.FileMap
/-! Running a fixer over files. For each named file, the chunks relevant to the keywords are
offered to the fixer in order with the file's imports; replies that pass the check are applied,
and a changed file that still passes is handed on. The fixer is any function of a state, a chunk
and the imports, answering a replacement or nothing and its next state. -/
namespace Linewise.Fix

abbrev Fixer (σ : Type) := σ → CodeChunk → List String → Option String × σ

/-- What a run produced: the rewritten files, the files handed on in order, and the fixer's
final state. -/
structure Outcome (σ : Type) where
  fixed : FileMap
  delivered : List (String × String)
  state : σ

def offerChunks {σ : Type} (src : BlockSource) (fixer : Fixer σ) (imports : List String)
    (path : String) : σ → List CodeChunk → List (CodeChunk × String) × σ
  | s, [] => ([], s)
  | s, c :: cs =>
    let (reply, s) := fixer s c imports
    let (rest, s) := offerChunks src fixer imports path s cs
    match reply with
    | some f => if accepts src c.coreText f path then ((c, f) :: rest, s) else (rest, s)
    | none => (rest, s)

/-- Fixes one file, blocks found by `src`; answers its new text when it changed and passes the
check. -/
def fixFile {σ : Type} (src : BlockSource) (fixer : Fixer σ) (keywords : List String)
    (opts : ChunkOptions) (name content : String) (s : σ) : Option String × σ :=
  let chunks := Chunk.extractChunksWith src content keywords name opts
  let (accepted, s) := offerChunks src fixer (Chunk.extractImports content) name s chunks
  if accepted.isEmpty then (none, s)
  else
    let updated := (Chunk.applyChunkFixes content accepted opts).newContent
    if updated != content && accepts src content updated name then (some updated, s) else (none, s)

def fixStep {σ : Type} (src : BlockSource) (fixer : Fixer σ) (files : FileMap)
    (keywords : List String) (opts : ChunkOptions) (o : Outcome σ) (name : String) : Outcome σ :=
  match files.get? name with
  | none => o
  | some content =>
    match fixFile src fixer keywords opts name content o.state with
    | (some t, s) => ⟨o.fixed.insert name t, o.delivered ++ [(name, t)], s⟩
    | (none, s) => { o with state := s }

/-- Runs the fixer over the named files, blocks found by the structural parser `src`. -/
def fixFiles {σ : Type} (src : BlockSource) (fixer : Fixer σ) (init : σ) (files : FileMap)
    (names keywords : List String) (opts : ChunkOptions) : Outcome σ :=
  if files.isEmpty || names.isEmpty || keywords.isEmpty then ⟨FileMap.empty, [], init⟩
  else names.foldl (fixStep src fixer files keywords opts) ⟨FileMap.empty, [], init⟩

end Linewise.Fix
