import Linewise.Patch.Validate
import Linewise.Json.Decode
/-! Edits, patches, statistics and reports as JSON. Records are written with their fields in
declaration order (`file_name`, `line_number`, `line_content`, `new_line_content`); edits and
patches are read back by the derived-decoder rules of `Json.decodeRecord`. -/
namespace Linewise

open Json

def Edit.toJson (e : Edit) : Json :=
  .obj [("file_name", .str e.fileName), ("line_number", .nat e.lineNumber),
    ("line_content", .str e.lineContent), ("new_line_content", .str e.newLineContent)]

def Patch.toJson (p : Patch) : Json :=
  .obj [("edits", .arr (p.edits.map Edit.toJson))]

def PatchStatistics.toJson (s : PatchStatistics) : Json :=
  .obj [("total_edits", .nat s.totalEdits), ("files_modified", .nat s.filesModified),
    ("lines_added", .nat s.linesAdded), ("lines_deleted", .nat s.linesDeleted),
    ("lines_modified", .nat s.linesModified)]

def FileMap.toJson (m : FileMap) : Json :=
  .obj (m.entries.map fun (k, v) => (k, .str v))

def keyJson (k : String × Nat) : Json := .arr [.str k.1, .nat k.2]

/-- An issue as a JSON object with its kind, details and message. -/
def Issue.toJson (i : Issue) : Json :=
  match i with
  | .emptyPatch => .obj [("kind", .str "EmptyPatch"), ("message", .str i.message)]
  | .fileNotFound f => .obj [("kind", .str "FileNotFound"), ("file", .str f), ("message", .str i.message)]
  | .lineOutOfBounds f n =>
    .obj [("kind", .str "LineOutOfBounds"), ("file", .str f), ("line_number", .nat n),
      ("message", .str i.message)]
  | .conflictingEdits ks =>
    .obj [("kind", .str "ConflictingEdits"), ("keys", .arr (ks.map keyJson)), ("message", .str i.message)]

def Report.toJson (r : Report) : Json :=
  .obj [("valid", .bool r.isValid), ("issues", .arr (r.issues.map Issue.toJson)),
    ("conflicts", .arr (r.conflicts.map keyJson))]

inductive EditField where
  | count (n : Nat)
  | text (s : String)

def EditField.ofText (j : Json) : Except String EditField := EditField.text <$> decodeString j

def EditField.ofCount (j : Json) : Except String EditField := EditField.count <$> decodeCount j

def Edit.decode (j : Json) : Except String Edit := do
  let fs ← decodeRecord "Edit" [("file_name", EditField.ofText), ("line_number", EditField.ofCount),
    ("line_content", EditField.ofText), ("new_line_content", EditField.ofText)] j
  match fs with
  | [.text f, .count n, .text a, .text b] => pure ⟨f, n, a, b⟩
  | _ => throw "invalid edit"

def Patch.decode (j : Json) : Except String Patch := do
  let fs ← decodeRecord "Patch" [("edits", decodeList Edit.decode)] j
  match fs with
  | [es] => pure ⟨es⟩
  | _ => throw "invalid patch"

end Linewise
