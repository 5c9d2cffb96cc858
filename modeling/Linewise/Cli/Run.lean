import Linewise.Cli.Grammar
import Linewise.Cli.Workspace
import Linewise.Patch.Create
import Linewise.Patch.Validate
import Linewise.Patch.Preview
import Linewise.Patch.Codec
import Linewise.Chunk.Codec
import Linewise.Chunk.Extract
import Linewise.Json.Read
import Linewise.Json.Print
import Linewise.Align.Unified
/-! Running `linepatch`: a command line that does not read ends with its usage error (code 2) or
shows help or the version (code 0); otherwise the task prints its results and log lines against a
host that reads and writes files, and a failure ends it with its message (code 1). -/
namespace Linewise.Cli

/-- What a task needs from the place it runs in: reading and writing files by path. -/
structure Host (m : Type → Type) where
  read : String → m (Except FileError String)
  write : String → String → m (Except FileError Unit)

structure Failure where
  message : String
  cause : Option String := none
  deriving Repr, Inhabited

def Failure.text (f : Failure) : String :=
  "error: " ++ f.message ++
    (match f.cause with
     | some c => "\n\nCaused by:\n    " ++ c
     | none => "") ++ "\n"

structure Transcript where
  verbosity : Nat
  out : String := ""
  err : String := ""
  deriving Repr, Inhabited

/-- A running task: it prints, and may end with a failure. -/
abbrev Session (m : Type → Type) := ExceptT Failure (StateT Transcript m)

variable {m : Type → Type} [Monad m]

def say (s : String) : Session m Unit := modify fun t => { t with out := t.out ++ s }

def logAll (es : List LogEntry) : Session m Unit := modify fun t =>
  { t with err := es.foldl (fun acc e => if e.shows t.verbosity then acc ++ e.line else acc) t.err }

def readPath (host : Host m) (path : String) : Session m String := do
  match ← (host.read path : m _) with
  | .ok s => pure s
  | .error e => throw { message := "Failed to read '" ++ path ++ "'", cause := some e.text }

/-- The last component of a path, unless it is `..` or there is none (`.`, `/`, empty). -/
def pathFileName (path : String) : Option String :=
  match ((path.splitOn "/").filter fun c => c != "" && c != ".").getLast? with
  | some ".." => none
  | other => other

def fileNameOr (path : String) (name : Option String) : Session m String :=
  match name with
  | some n => pure n
  | none =>
    match pathFileName path with
    | some n => pure n
    | none => throw { message := "Cannot derive a file name from '" ++ path ++ "'" }

def negativeLine (edits : List Json) : Option (Nat × Int) :=
  edits.zipIdx.findSome? fun (e, i) =>
    match (e.field? "line_number").bind Json.int64? with
    | some n => if n < 0 then some (i + 1, n) else none
    | none => none

def loadPatch (host : Host m) (path : String) : Session m Patch := do
  let text ← readPath host path
  let failed := "Failed to parse patch from '" ++ path ++ "'"
  match Json.parse text with
  | .error e => throw { message := failed, cause := some e.message }
  | .ok v =>
    match negativeLine (((v.field? "edits").bind Json.items?).getD []) with
    | some (i, n) =>
      throw { message := "Edit " ++ Nat.repr i ++ " in '" ++ path ++ "' has a negative line number (" ++
        toString n ++ ")." }
    | none =>
      match Patch.decode v with
      | .ok p => pure p
      | .error msg => throw { message := failed, cause := some msg }

def dropFinalNewlines (s : String) : String :=
  String.ofList (s.toList.reverse.dropWhile (· == '\n')).reverse

def diffTask (host : Host m) (original edited : String) (name : Option String) (plain stats : Bool) :
    Session m Unit := do
  let name ← fileNameOr original name
  let originals := FileMap.empty.insert name (← readPath host original)
  let changed := FileMap.empty.insert name (← readPath host edited)
  let patch := if plain then createFallbackPatch originals changed else createPatch originals changed
  logAll (if plain then createFallbackPatchLog originals changed else createPatchLog originals changed)
  say (Json.pretty 0 (if stats then patch.statistics.toJson else patch.toJson) ++ "\n")

def validateTask (host : Host m) (original patchPath : String) (name : Option String) :
    Session m Unit := do
  let name ← fileNameOr original name
  let originals := FileMap.empty.insert name (← readPath host original)
  let patch ← loadPatch host patchPath
  let report := validatePatch patch originals
  logAll (validatePatchLog patch originals)
  if !report.isValid then
    logAll (report.messages.map LogEntry.error)
    throw { message := "Patch is invalid (" ++ Nat.repr report.issues.length ++ " issue(s))." }
  logAll [LogEntry.info ("Patch is valid: " ++ Nat.repr patch.len ++ " edit(s).")]

def previewTask (host : Host m) (original patchPath : String) (name : Option String) :
    Session m Unit := do
  let name ← fileNameOr original name
  let originals := FileMap.empty.insert name (← readPath host original)
  let patch ← loadPatch host patchPath
  let preview := previewPatch originals patch
  logAll (previewPatchLog originals patch)
  match preview.get? name with
  | some text => say text
  | none => pure ()
  logAll ((preview.names.filter (· != name)).map fun other =>
    LogEntry.warn ("Patch also touches '" ++ other ++ "', which is not shown."))

def chunksTask (host : Host m) (src : BlockSource) (file : String) (keywords : List String) (contextLines : Nat)
    (pinnedClass : Option String) : Session m Unit := do
  let content ← readPath host file
  let opts : ChunkOptions := { contextLines, pinnedClass }
  let chunks := Chunk.extractChunksWith src content keywords file opts
  logAll (Chunk.extractChunksLog src content keywords file opts)
  logAll [LogEntry.info ("Extracted " ++ Nat.repr chunks.length ++ " chunk(s).")]
  say (Json.pretty 0 (.arr (chunks.map CodeChunk.toJson)) ++ "\n")

/-- Puts replacement texts in place of previously extracted chunks; with `dryRun` it prints the
changes as a unified diff instead of writing them. -/
def relocateTask (host : Host m) (file chunksPath : String) (replacements : List String)
    (contextLines : Nat) (dryRun : Bool) : Session m Unit := do
  let content ← readPath host file
  let chunkText ← readPath host chunksPath
  let chunks ← match CodeChunk.readAll chunkText with
    | .ok cs => pure cs
    | .error e =>
      throw { message := "Failed to parse chunks from '" ++ chunksPath ++ "'", cause := some e.message }
  if chunks.length != replacements.length then
    throw { message := "Got " ++ Nat.repr chunks.length ++ " chunk(s) but " ++
      Nat.repr replacements.length ++ " replacement(s)." }
  let fixes ← (chunks.zip replacements).mapM fun (c, p) => do
    pure (c, dropFinalNewlines (← readPath host p))
  let opts : ChunkOptions := { contextLines }
  let app := Chunk.applyChunkFixes content fixes opts
  logAll (Chunk.applyChunkFixesLog content fixes opts)
  logAll (app.failures.map fun (i, e) => LogEntry.warn ("  - Fix " ++ Nat.repr i ++ " failed: " ++ e.message))
  if dryRun then
    say ("----- Proposed Changes for " ++ file ++ " -----\n")
    say (Align.unifiedDiff content app.newContent 3 (some ("a/" ++ file, "b/" ++ file)))
    say "------------------------------------\n"
    logAll [LogEntry.info "DRY RUN completed. No files were modified."]
  else if app.newContent != content then
    match ← (host.write file app.newContent : m _) with
    | .ok () => logAll [LogEntry.info ("Wrote " ++ file)]
    | .error e => throw { message := "Failed to write '" ++ file ++ "'", cause := some e.text }
  let failed := app.failures.length
  if 0 < failed then
    throw { message := "Completed with " ++ Nat.repr failed ++ " failed fix(es)." }

def perform (host : Host m) (src : BlockSource) : Task → Session m Unit
  | .diff o e n p s => diffTask host o e n p s
  | .validate o p n => validateTask host o p n
  | .preview o p n => previewTask host o p n
  | .chunks f k c p => chunksTask host src f k c p
  | .relocate f c r n d => relocateTask host f c r n d

/-- How a run of `linepatch` ends: its exit code and what it printed on standard output and
standard error. -/
structure Outcome where
  code : Nat
  out : String
  err : String
  deriving Repr, Inhabited

/-- Runs `linepatch` on a command line, blocks found by `src`. -/
def runLine (host : Host m) (src : BlockSource) (words : List String) : m Outcome :=
  match readLine words with
  | .error (.complaint c) => pure ⟨2, "", c.text⟩
  | .error (.show t) => pure ⟨0, t, ""⟩
  | .error (.nothingGiven t) => pure ⟨2, "", t⟩
  | .ok req => do
    let (r, t) ← ((perform host src req.task).run).run { verbosity := req.verbosity }
    match r with
    | .ok () => pure ⟨0, t.out, t.err⟩
    | .error f => pure ⟨1, t.out, t.err ++ f.text⟩

def workspaceHost : Host (StateM FileMap) where
  read path := do pure (readIn (← get) path)
  write path text := do
    match writeIn (← get) path text with
    | .ok files => set files; pure (.ok ())
    | .error e => pure (.error e)

/-- Runs `linepatch` in a directory holding `files`, blocks found by `src`; answers how it ended
and the files after. -/
def runIn (src : BlockSource) (files : FileMap) (words : List String) : Outcome × FileMap :=
  (runLine workspaceHost src words).run files

end Linewise.Cli
