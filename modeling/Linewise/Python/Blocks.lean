import Linewise.Python.Statement
import Linewise.Code.Syntax
/-! The Python recognizer as a structural parser. A text without syntax errors gives a module node
over its definitions, each holding one token from its first row to the end of its last code
token; a text with an error gives an error node. -/
namespace Linewise.Python

open Code

def DefKind.nodeKind : DefKind → String
  | .function => "function_definition"
  | .classDef => "class_definition"

def Found.node (f : Found) : Node :=
  ⟨f.kind.nodeKind, ⟨f.row, 0⟩, ⟨f.last.row, f.last.column⟩, false,
    [⟨"token", ⟨f.row, 0⟩, ⟨f.last.row, f.last.column⟩, false, []⟩]⟩

/-- Recognizes a whole module; answers the accepted definitions, or nothing when the text has a
syntax error. The fuel grows with the text, so that it bounds every chain of steps. -/
def recognize (text : String) : Option (List Found) :=
  let cs := text.toList.toArray
  match (moduleBody (16 * (cs.size + 4))).run { text := cs } with
  | some ((), r) => some r.found
  | none => none

/-- The syntax tree of a Python text: a module over its accepted definitions, listed so that a walk
taking the last child first meets them in the order they were accepted, or an error node. -/
def syntaxTree (text : String) : Option Node :=
  match recognize text with
  | some fs => some ⟨"module", ⟨0, 0⟩, ⟨0, 0⟩, false, (fs.map Found.node).reverse⟩
  | none => some ⟨"ERROR", ⟨0, 0⟩, ⟨0, 0⟩, false, []⟩

/-- The Python recognizer as a block source. -/
def blockSource : BlockSource := structureSource syntaxTree

end Linewise.Python
