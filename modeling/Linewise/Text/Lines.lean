/-! Line views of text. A line ends at a newline character, a carriage return right before
that newline belongs to the ending, a final ending opens no further line, and a carriage
return anywhere else is ordinary text. Joining with newlines is the inverse view. -/
namespace Linewise.Text

def dropReturn (cs : List Char) : List Char :=
  if cs.getLast? = some '\r' then cs.dropLast else cs

/-- The characters of each line: every piece followed by a newline loses a final carriage
return, and the piece after the last newline counts only when it is not empty. -/
def lineChars (cs : List Char) : List (List Char) :=
  let pieces := cs.splitOn '\n'
  let ended := pieces.dropLast.map dropReturn
  match pieces.getLast? with
  | some last => if last.isEmpty then ended else ended ++ [last]
  | none => ended

def lines (s : String) : List String :=
  (lineChars s.toList).map String.ofList

def lineCount (s : String) : Nat :=
  (lines s).length

/-- Lines joined by newlines, with no newline after the last one. -/
def joinLines (ls : List String) : String :=
  "\n".intercalate ls

def endsWithNewline (s : String) : Bool :=
  s.toList.getLast? == some '\n'

theorem lines_empty : lines "" = [] := by
  decide

end Linewise.Text
