import Linewise.Chunk.Relocate
import Linewise.Json.Decode
import Linewise.Json.Stream
/-! Blocks, chunks, strategies and fix applications as JSON. Chunks are written with their
fields in declaration order and read back by the derived-decoder rules, from a value
(`Json.decodeRecord`) or straight from text (`Json.readRecord`). -/
namespace Linewise

open Json Chunk

def Block.toJson (b : Block) : Json :=
  .obj [("kind", .str b.kind.name), ("start_line", .nat b.startLine), ("end_line", .nat b.endLine)]

def CodeChunk.toJson (c : CodeChunk) : Json :=
  .obj [("start_line", .nat c.startLine), ("end_line", .nat c.endLine), ("content", .str c.content),
    ("signature", .str c.signature), ("file_path", .str c.filePath),
    ("context_before", .str c.contextBefore), ("context_after", .str c.contextAfter),
    ("target_start", .nat c.targetStart), ("target_end", .nat c.targetEnd)]

inductive ChunkField where
  | count (n : Nat)
  | text (s : String)

/-- The fields of a chunk, in declaration order, with their decoders. -/
def chunkFields : List (String × (Json → Except String ChunkField)) :=
  let count := fun j => ChunkField.count <$> decodeCount j
  let text := fun j => ChunkField.text <$> decodeString j
  [("start_line", count), ("end_line", count), ("content", text), ("signature", text),
    ("file_path", text), ("context_before", text), ("context_after", text),
    ("target_start", count), ("target_end", count)]

/-- A chunk from its decoded fields. -/
def chunkOfFields : List ChunkField → Option CodeChunk
  | [.count s, .count e, .text c, .text sig, .text p, .text b, .text a, .count ts, .count te] =>
    some ⟨s, e, c, sig, p, b, a, ts, te⟩
  | _ => none

def CodeChunk.decode (j : Json) : Except String CodeChunk := do
  let fs ← decodeRecord "CodeChunk" chunkFields j
  match chunkOfFields fs with
  | some c => pure c
  | none => throw "invalid chunk"

/-- Readers of the fields of a chunk from text, in declaration order. -/
def chunkReaders : List (String × Reading ChunkField) :=
  let count := ChunkField.count <$> expectCount
  let text := ChunkField.text <$> expectString
  [("start_line", count), ("end_line", count), ("content", text), ("signature", text),
    ("file_path", text), ("context_before", text), ("context_after", text),
    ("target_start", count), ("target_end", count)]

def CodeChunk.read : Reading CodeChunk := do
  let fs ← readRecord "CodeChunk" chunkReaders
  match chunkOfFields fs with
  | some c => pure c
  | none => failPlaced "invalid chunk"

/-- Reads a document holding a list of chunks. -/
def CodeChunk.readAll (text : String) : Except ReadError (List CodeChunk) :=
  readDocument (Json.readList CodeChunk.read) text

def Chunk.Strategy.toJson : Strategy → Json
  | .exactContext => .obj [("kind", .str "ExactContext")]
  | .signatureAnchor s e => .obj [("kind", .str "SignatureAnchor"), ("block_start", .nat s), ("block_end", .nat e)]
  | .rawContent => .obj [("kind", .str "RawContent")]

def Chunk.FixStatus.toJson : FixStatus → Json
  | .applied s => .obj [("status", .str "applied"), ("strategy", s.toJson)]
  | .failed e => .obj [("status", .str "failed"), ("message", .str e.message)]

def Chunk.Application.toJson (a : Application) : Json :=
  .obj [("new_content", .str a.newContent), ("fix_results", .arr (a.results.map FixStatus.toJson)),
    ("all_applied", .bool a.allApplied),
    ("failures", .arr (a.failures.map fun (i, e) => .obj [("fix_index", .nat i), ("message", .str e.message)]))]

end Linewise
