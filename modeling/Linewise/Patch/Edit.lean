import Linewise.Text.StringSet
/-! Line edits and patches. An edit names a file, a 0-based line of the original file, the text
it claims is there (empty for an insertion) and the text that replaces it (empty for a
deletion). A patch is an ordered list of edits over any number of files; its statistics count
edits by kind and distinct files. -/
namespace Linewise

/-- A change of one line of one file. -/
structure Edit where
  fileName : String
  lineNumber : Nat
  lineContent : String
  newLineContent : String
  deriving DecidableEq, Repr, Inhabited

inductive EditKind where
  | added
  | deleted
  | modified
  | empty
  deriving DecidableEq, Repr, Inhabited

def EditKind.name : EditKind → String
  | .added => "Added"
  | .deleted => "Deleted"
  | .modified => "Modified"
  | .empty => "Empty"

namespace Edit

def insertion (file : String) (n : Nat) (text : String) : Edit := ⟨file, n, "", text⟩

def deletion (file : String) (n : Nat) (text : String) : Edit := ⟨file, n, text, ""⟩

/-- The kind of an edit, read off which of its two texts are empty. -/
def kind (e : Edit) : EditKind :=
  match e.lineContent.isEmpty, e.newLineContent.isEmpty with
  | true, false => .added
  | false, true => .deleted
  | false, false => .modified
  | true, true => .empty

def key (e : Edit) : String × Nat := (e.fileName, e.lineNumber)

end Edit

/-- An ordered list of edits. -/
structure Patch where
  edits : List Edit
  deriving DecidableEq, Repr, Inhabited

structure PatchStatistics where
  totalEdits : Nat
  filesModified : Nat
  linesAdded : Nat
  linesDeleted : Nat
  linesModified : Nat
  deriving DecidableEq, Repr

namespace Patch

def empty : Patch := ⟨[]⟩

def ofEdits (es : List Edit) : Patch := ⟨es⟩

def isEmpty (p : Patch) : Bool := p.edits.isEmpty

def len (p : Patch) : Nat := p.edits.length

/-- The distinct file names of the edits, sorted. -/
def files (p : Patch) : List String :=
  Text.sortedSet (p.edits.map Edit.fileName)

def editsFor (p : Patch) (file : String) : List Edit :=
  p.edits.filter (·.fileName == file)

def countKind (p : Patch) (k : EditKind) : Nat :=
  (p.edits.filter (·.kind == k)).length

def statistics (p : Patch) : PatchStatistics :=
  { totalEdits := p.len
    filesModified := p.files.length
    linesAdded := p.countKind .added
    linesDeleted := p.countKind .deleted
    linesModified := p.countKind .modified }

end Patch

end Linewise
