import Linewise.Patch.Edit
import Linewise.FileMap
import Linewise.Log
import Linewise.Text.Lines
/-! Checking a patch against the original files. A patch without edits is reported alone; else
files in order of first appearance: a missing file once, in a present one each edit claiming a
line at or past the end (an insertion may point past it); last, in one issue, every file-and-line
key used by more than one edit. -/
namespace Linewise

/-- A problem found in a patch. -/
inductive Issue where
  | emptyPatch
  | fileNotFound (file : String)
  | lineOutOfBounds (file : String) (lineNumber : Nat)
  | conflictingEdits (keys : List (String × Nat))
  deriving DecidableEq, Repr, Inhabited

def keyText (k : String × Nat) : String := "(" ++ k.1 ++ ", " ++ Nat.repr k.2 ++ ")"

def Issue.message : Issue → String
  | .emptyPatch => "Patch contains no edits"
  | .fileNotFound f => "File " ++ f ++ " not found in original files"
  | .lineOutOfBounds f n => "Line number " ++ Nat.repr n ++ " exceeds file length in " ++ f
  | .conflictingEdits keys =>
    "Multiple edits on same lines: [" ++ ", ".intercalate (keys.map keyText) ++ "]"

structure Report where
  issues : List Issue
  deriving DecidableEq, Repr, Inhabited

namespace Report

def isValid (r : Report) : Bool := r.issues.isEmpty

def conflicts (r : Report) : List (String × Nat) :=
  match r.issues.findSome? (fun | .conflictingEdits ks => some ks | _ => none) with
  | some ks => ks
  | none => []

def messages (r : Report) : List String := r.issues.map Issue.message

end Report

/-- Distinct items in the order they first appear. -/
def firstAppearances {α : Type} [BEq α] (xs : List α) : List α :=
  (xs.foldl (fun acc x => if acc.contains x then acc else acc.push x) #[]).toList

/-- The issues of one file: missing, or the edits claiming lines past its end. -/
def fileIssues (p : Patch) (originals : FileMap) (file : String) : List Issue :=
  match originals.get? file with
  | none => [.fileNotFound file]
  | some content =>
    let count := Text.lineCount content
    (p.editsFor file).filterMap fun e =>
      if count ≤ e.lineNumber && !e.lineContent.isEmpty then some (.lineOutOfBounds file e.lineNumber)
      else none

/-- Keys used by more than one edit, in the order they first appear. -/
def conflictingKeys (p : Patch) : List (String × Nat) :=
  let keys := p.edits.map Edit.key
  (firstAppearances keys).filter fun k => 1 < keys.count k

/-- Checks a patch against the original files. -/
def validatePatch (p : Patch) (originals : FileMap) : Report :=
  if p.isEmpty then ⟨[.emptyPatch]⟩
  else
    let perFile := (firstAppearances (p.edits.map Edit.fileName)).flatMap (fileIssues p originals)
    let keys := conflictingKeys p
    ⟨perFile ++ (if keys.isEmpty then [] else [.conflictingEdits keys])⟩

def validatePatchLog (p : Patch) (originals : FileMap) : List LogEntry :=
  if p.isEmpty then []
  else
    let perFile := (firstAppearances (p.edits.map Edit.fileName)).map fun f =>
      match originals.get? f with
      | none => LogEntry.debug ("  Validation: '" ++ f ++ "' not in original files.")
      | some content =>
        LogEntry.trace ("  Validation: '" ++ f ++ "' has " ++ Nat.repr (Text.lineCount content) ++ " line(s).")
    let keys := conflictingKeys p
    perFile ++ (if keys.isEmpty then []
      else [LogEntry.debug ("  Validation: " ++ Nat.repr keys.length ++ " conflicting key(s).")])

end Linewise
