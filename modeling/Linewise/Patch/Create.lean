import Linewise.Align.Segment
import Linewise.Patch.Validate
/-! Turning file pairs into patches. Each changed segment of the line alignment becomes edits:
the plain decomposition pairs old and new lines position by position, the optimized one only
when both sides are as long, else it deletes and inserts; blank changes are dropped. The patch is
the optimized one when it validates, else the plain one, which also brings new files. -/
namespace Linewise

open Align

def lineSegments (original edited : String) : List Segment :=
  segments (Text.lines original).toArray (Text.lines edited).toArray

def lineAt (ls : Array String) (i : Nat) : String := ls[i]?.getD ""

def segmentDeletions (file : String) (old : Array String) (s : Segment) : List Edit :=
  (List.range s.oldLen).map fun i => Edit.deletion file (s.oldStart + i) (lineAt old (s.oldStart + i))

/-- Insertions of the new lines of a segment, numbered from the segment's old start. -/
def segmentInsertions (file : String) (new : Array String) (s : Segment) : List Edit :=
  (List.range s.newLen).map fun j => Edit.insertion file (s.oldStart + j) (lineAt new (s.newStart + j))

/-- Edits pairing old and new lines of a segment position by position, over `span` positions;
positions past a side read as empty text, and positions that agree give no edit. -/
def pairedEdits (file : String) (old new : Array String) (s : Segment) (span : Nat) : List Edit :=
  (List.range span).filterMap fun i =>
    let o := if i < s.oldLen then lineAt old (s.oldStart + i) else ""
    let n := if i < s.newLen then lineAt new (s.newStart + i) else ""
    if o == n then none else some ⟨file, s.oldStart + i, o, n⟩

def plainSegmentEdits (file : String) (old new : Array String) (s : Segment) : List Edit :=
  match s.tag with
  | .equal => []
  | .replace => pairedEdits file old new s (max s.oldLen s.newLen)
  | .delete => segmentDeletions file old s
  | .insert => segmentInsertions file new s

def optimizedSegmentEdits (file : String) (old new : Array String) (s : Segment) : List Edit :=
  match s.tag with
  | .equal => []
  | .replace =>
    if s.oldLen == s.newLen then pairedEdits file old new s s.oldLen
    else segmentDeletions file old s ++ segmentInsertions file new s
  | .delete => segmentDeletions file old s
  | .insert => segmentInsertions file new s

def Edit.isChange (e : Edit) : Bool := e.kind != .empty

/-- Edits of a file pair, by the given decomposition of segments, before blank changes are
dropped. -/
def rawFileEdits (decompose : String → Array String → Array String → Segment → List Edit)
    (file original edited : String) : List Edit :=
  let old := (Text.lines original).toArray
  let new := (Text.lines edited).toArray
  (segments old new).flatMap (decompose file old new)

def createFileEdits (file original edited : String) : List Edit :=
  (rawFileEdits plainSegmentEdits file original edited).filter Edit.isChange

def createOptimizedFileEdits (file original edited : String) : List Edit :=
  (rawFileEdits optimizedSegmentEdits file original edited).filter Edit.isChange

def rangeText (a b : Nat) : String := Nat.repr a ++ ".." ++ Nat.repr b

def fileEditsLog (decompose : String → Array String → Array String → Segment → List Edit)
    (file original edited : String) : List LogEntry :=
  (lineSegments original edited).map (fun s =>
    LogEntry.trace ("    " ++ s.tag.title ++ " old " ++ rangeText s.oldStart s.oldEnd ++
      " new " ++ rangeText s.newStart s.newEnd)) ++
  ((rawFileEdits decompose file original edited).filter (!·.isChange)).map fun e =>
    LogEntry.trace ("    Dropping blank-line change at " ++ Nat.repr e.lineNumber)

/-- The optimized patch: edits of every file changed between both versions, in name order;
files only in the edited version are left out. -/
def createOptimizedPatch (originals edited : FileMap) : Patch :=
  ⟨edited.entries.flatMap fun (f, e) =>
    match originals.get? f with
    | none => []
    | some o => if o == e then [] else createOptimizedFileEdits f o e⟩

def createOptimizedPatchLog (originals edited : FileMap) : List LogEntry :=
  edited.entries.flatMap fun (f, e) =>
    match originals.get? f with
    | none => [LogEntry.trace ("  Skipping new file '" ++ f ++ "' in optimized pass.")]
    | some o =>
      if o == e then []
      else fileEditsLog optimizedSegmentEdits f o e ++
        [LogEntry.debug ("  " ++ Nat.repr (createOptimizedFileEdits f o e).length ++
          " optimized edit(s) for '" ++ f ++ "'")]

/-- Insertions of the non-empty lines of a new file, each at its own line number. -/
def newFileEdits (file content : String) : List Edit :=
  ((Text.lines content).zipIdx.filter (!·.1.isEmpty)).map fun (l, i) => Edit.insertion file i l

/-- The plain patch: plain edits of every changed file and insertions for new files. -/
def createFallbackPatch (originals edited : FileMap) : Patch :=
  ⟨edited.entries.flatMap fun (f, e) =>
    match originals.get? f with
    | none => newFileEdits f e
    | some o => if o == e then [] else createFileEdits f o e⟩

def createFallbackPatchLog (originals edited : FileMap) : List LogEntry :=
  edited.entries.flatMap fun (f, e) =>
    match originals.get? f with
    | none => [LogEntry.debug ("  New file '" ++ f ++ "'")]
    | some o =>
      if o == e then []
      else fileEditsLog plainSegmentEdits f o e ++
        [LogEntry.debug ("  " ++ Nat.repr (createFileEdits f o e).length ++ " edit(s) for '" ++ f ++ "'")]

/-- The patch from the original to the edited files: the optimized patch when it validates,
else the plain one; no edited files give the empty patch. -/
def createPatch (originals edited : FileMap) : Patch :=
  if edited.isEmpty then Patch.empty
  else
    let optimized := createOptimizedPatch originals edited
    if (validatePatch optimized originals).isValid then optimized
    else createFallbackPatch originals edited

def createPatchLog (originals edited : FileMap) : List LogEntry :=
  if edited.isEmpty then []
  else
    let optimized := createOptimizedPatch originals edited
    let report := validatePatch optimized originals
    let first := createOptimizedPatchLog originals edited ++ validatePatchLog optimized originals
    if report.isValid then
      first ++ [LogEntry.info ("Created optimized patch with " ++ Nat.repr optimized.len ++
        " edit(s) across " ++ Nat.repr optimized.files.length ++ " file(s).")]
    else
      first ++ report.issues.map (fun i => LogEntry.warn ("  Patch validation issue: " ++ i.message)) ++
        createFallbackPatchLog originals edited ++
        [LogEntry.info ("Falling back to plain patch with " ++
          Nat.repr (createFallbackPatch originals edited).len ++ " edit(s).")]

end Linewise
