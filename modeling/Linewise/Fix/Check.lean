import Linewise.Code.Block
import Linewise.Text.Lines
import Linewise.Text.Blank
/-! Checking a fixed text against the text it replaces. Identical texts pass. A fixed Python
file (a path ending in `.py`) must parse once its common indentation is removed. And the fixed
text must keep at least four fifths of the lines that open a definition (`def `, `class ` or
`async def ` at the start of a line). -/
namespace Linewise.Fix

/-- Why a fixed text was turned down. -/
inductive Rejection where
  | syntaxError (path : String)
  | definitionsRemoved (before after : Nat)
  deriving DecidableEq, Repr, Inhabited

def Rejection.kind : Rejection → String
  | .syntaxError _ => "SyntaxError"
  | .definitionsRemoved _ _ => "DefinitionsRemoved"

def Rejection.message : Rejection → String
  | .syntaxError p => "Fixed code for " ++ p ++ " does not parse"
  | .definitionsRemoved b a =>
    "Function/class definitions removed (" ++ Nat.repr a ++ " vs " ++ Nat.repr b ++ ")"

/-- The characters after the first `k` bytes, when `k` falls between two characters and within
the list. -/
def dropBytes : Nat → List Char → Option (List Char)
  | 0, cs => some cs
  | _, [] => none
  | k + 1, c :: cs => if c.utf8Size ≤ k + 1 then dropBytes (k + 1 - c.utf8Size) cs else none

/-- A line without the first `k` bytes, or without its leading blanks when `k` does not fall
between two characters within it. -/
def cutLine (k : Nat) (line : String) : String :=
  match dropBytes k line.toList with
  | some cs => String.ofList cs
  | none => Text.trimStart line

/-- The text with the indentation common to its non-blank lines removed, lines joined by line
feeds. -/
def dedent (text : String) : String :=
  let ls := Text.lines text
  let k := ((ls.filter fun l => !Text.isBlankText l).map Text.indentation).min?.getD 0
  "\n".intercalate (ls.map (cutLine k))

def parsesCleanly (src : BlockSource) (text : String) : Bool := (src.parse (dedent text)).isSome

def opensDefinition (line : String) : Bool :=
  line.startsWith "def " || line.startsWith "class " || line.startsWith "async def "

def definitionCount (text : String) : Nat := ((text.splitOn "\n").filter opensDefinition).length

/-- Checks a fixed text against the original, Python parsed by `src`. -/
def validateFix (src : BlockSource) (original fixed path : String) : Except Rejection Unit :=
  if original == fixed then .ok ()
  else if path.endsWith ".py" && !parsesCleanly src fixed then .error (.syntaxError path)
  else
    let before := definitionCount original
    let after := definitionCount fixed
    if 5 * after < 4 * before then .error (.definitionsRemoved before after) else .ok ()

def accepts (src : BlockSource) (original fixed path : String) : Bool :=
  match validateFix src original fixed path with
  | .ok () => true
  | .error _ => false

end Linewise.Fix
