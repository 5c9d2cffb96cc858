/-! Sets of strings kept as lists in ascending byte order, each string once. -/
namespace Linewise.Text

def insertSorted (s : String) : List String → List String
  | [] => [s]
  | t :: ts => if s < t then s :: t :: ts else if s = t then t :: ts else t :: insertSorted s ts

/-- The sorted distinct strings of a list. -/
def sortedSet (xs : List String) : List String :=
  xs.foldl (fun acc x => insertSorted x acc) []

end Linewise.Text
