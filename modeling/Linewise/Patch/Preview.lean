import Linewise.Patch.Edit
import Linewise.FileMap
import Linewise.Log
import Linewise.Text.Lines
/-! Previewing a patch: the files as they would read after it. A new file is the non-empty new
texts of its edits by line number; an existing file takes its edits from the highest line down,
replacing, deleting or appending, and keeps a final newline. Untouched files are kept. -/
namespace Linewise

inductive LineAction where
  | delete (n : Nat)
  | replace (n : Nat) (text : String)
  | append (text : String)
  deriving DecidableEq, Repr

/-- The action of an edit on a file of `count` lines. -/
def lineAction (count : Nat) (e : Edit) : LineAction :=
  if e.lineNumber < count then
    if e.newLineContent.isEmpty then .delete e.lineNumber else .replace e.lineNumber e.newLineContent
  else .append e.newLineContent

def LineAction.apply (ls : List String) : LineAction → List String
  | .delete n => ls.eraseIdx n
  | .replace n t => ls.set n t
  | .append t => ls ++ [t]

/-- The edits of a file from the highest line number down, ties in patch order. -/
def descendingEdits (es : List Edit) : List Edit :=
  es.mergeSort fun a b => b.lineNumber ≤ a.lineNumber

def applyToLines (ls : List String) (es : List Edit) : List String :=
  (descendingEdits es).foldl (fun acc e => (lineAction acc.length e).apply acc) ls

/-- The text of an existing file after its edits. -/
def applyEdits (original : String) (es : List Edit) : String :=
  let content := Text.joinLines (applyToLines (Text.lines original) es)
  if Text.endsWithNewline original && !content.isEmpty then content ++ "\n" else content

/-- The text of a new file from its edits. -/
def newFileText (es : List Edit) : String :=
  Text.joinLines (((es.mergeSort fun a b => a.lineNumber ≤ b.lineNumber).map Edit.newLineContent).filter
    (!·.isEmpty))

def previewFile (originals : FileMap) (p : Patch) (f : String) : String :=
  match originals.get? f with
  | none => newFileText (p.editsFor f)
  | some o => applyEdits o (p.editsFor f)

/-- The files after a patch. -/
def previewPatch (originals : FileMap) (p : Patch) : FileMap :=
  if p.isEmpty then originals
  else
    let touched := FileMap.ofList (p.files.map fun f => (f, previewFile originals p f))
    originals.entries.foldl (fun m (k, v) => if m.contains k then m else m.insert k v) touched

def LineAction.logLine (e : Edit) : LineAction → LogEntry
  | .delete n => LogEntry.trace ("    delete line " ++ Nat.repr n)
  | .replace n _ => LogEntry.trace ("    replace line " ++ Nat.repr n)
  | .append _ => LogEntry.trace ("    append at end (requested line " ++ Nat.repr e.lineNumber ++ ")")

def applyToLinesLog (ls : List String) (es : List Edit) : List LogEntry :=
  ((descendingEdits es).foldl (fun (acc : List String × Array LogEntry) e =>
    let a := lineAction acc.1.length e
    (a.apply acc.1, acc.2.push (a.logLine e))) (ls, #[])).2.toList

def previewPatchLog (originals : FileMap) (p : Patch) : List LogEntry :=
  if p.isEmpty then []
  else p.files.flatMap fun f =>
    let es := p.editsFor f
    match originals.get? f with
    | none => [LogEntry.debug ("  Previewing new file '" ++ f ++ "'")]
    | some o =>
      LogEntry.debug ("  Previewing '" ++ f ++ "' with " ++ Nat.repr es.length ++ " edit(s)") ::
        applyToLinesLog (Text.lines o) es

end Linewise
