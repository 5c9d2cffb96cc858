import Linewise.Align.Segment
/-! Unified diffs of two texts. The texts are cut into lines keeping their endings, aligned, and
grouped into hunks with `context` unchanged lines around each change, changes further apart than
twice the context in separate hunks. A line without an ending is followed by a note; equal texts
give nothing. -/
namespace Linewise.Align

def linesWithEndings (s : String) : List String :=
  go s.toList [] []
where
  go : List Char → List Char → List String → List String
    | [], cur, acc => (if cur.isEmpty then acc else String.ofList cur.reverse :: acc).reverse
    | '\r' :: '\n' :: rest, cur, acc => go rest [] (String.ofList ('\n' :: '\r' :: cur).reverse :: acc)
    | '\r' :: rest, cur, acc => go rest [] (String.ofList ('\r' :: cur).reverse :: acc)
    | '\n' :: rest, cur, acc => go rest [] (String.ofList ('\n' :: cur).reverse :: acc)
    | c :: rest, cur, acc => go rest (c :: cur) acc

def equalRun (o n len : Nat) : Segment := ⟨.equal, o, o + len, n, n + len⟩

def keepLast (k : Nat) (s : Segment) : Segment :=
  if s.tag == .equal then
    let cut := s.oldLen - k
    equalRun (s.oldStart + cut) (s.newStart + cut) (s.oldLen - cut)
  else s

def keepFirst (k : Nat) (s : Segment) : Segment :=
  if s.tag == .equal then equalRun s.oldStart s.newStart (min s.oldLen k) else s

/-- Cuts the segments into groups at long equal stretches. -/
def cutGroups (k : Nat) : List Segment → List Segment → List (List Segment) → List (List Segment)
  | [], pending, acc =>
    match pending with
    | [] => acc.reverse
    | [s] => if s.tag == .equal then acc.reverse else ([s] :: acc).reverse
    | _ => (pending.reverse :: acc).reverse
  | s :: rest, pending, acc =>
    if s.tag == .equal && s.oldLen > 2 * k then
      let tail := s.oldLen - k
      cutGroups k rest [equalRun (s.oldStart + tail) (s.newStart + tail) k]
        ((equalRun s.oldStart s.newStart k :: pending).reverse :: acc)
    else cutGroups k rest (s :: pending) acc

/-- Groups segments into hunks with `k` lines of context. -/
def hunks (k : Nat) (segs : List Segment) : List (List Segment) :=
  let segs := match segs with
    | [] => []
    | s :: rest => keepLast k s :: rest
  let segs := match segs.reverse with
    | [] => []
    | s :: rest => (keepFirst k s :: rest).reverse
  cutGroups k segs [] []

/-- A hunk range: the first line (1-based) and the length, the length left out when it is one,
and an empty range placed at the line before it. -/
def rangeText (start stop : Nat) : String :=
  let len := stop - start
  if len == 1 then Nat.repr (start + 1)
  else if len == 0 then Nat.repr start ++ ",0"
  else Nat.repr (start + 1) ++ "," ++ Nat.repr len

def hunkHeader (ss : List Segment) : String :=
  match ss.head?, ss.getLast? with
  | some first, some last =>
    "@@ -" ++ rangeText first.oldStart last.oldEnd ++ " +" ++ rangeText first.newStart last.newEnd ++ " @@\n"
  | _, _ => ""

def hasEnding (line : String) : Bool := line.endsWith "\n" || line.endsWith "\r"

def markedLine (mark : String) (line : String) : String :=
  mark ++ line ++ (if hasEnding line then "" else "\n\\ No newline at end of file\n")

def markedLines (mark : String) (xs : Array String) (a b : Nat) : String :=
  String.join ((List.range (b - a)).map fun i => markedLine mark (xs[a + i]?.getD ""))

def segmentLines (old new : Array String) (s : Segment) : String :=
  match s.tag with
  | .equal => markedLines " " old s.oldStart s.oldEnd
  | .delete => markedLines "-" old s.oldStart s.oldEnd
  | .insert => markedLines "+" new s.newStart s.newEnd
  | .replace => markedLines "-" old s.oldStart s.oldEnd ++ markedLines "+" new s.newStart s.newEnd

def hunkText (old new : Array String) (ss : List Segment) : String :=
  hunkHeader ss ++ String.join (ss.map (segmentLines old new))

/-- The unified diff of two texts with `k` lines of context, headed by the two names when given. -/
def unifiedDiff (before after : String) (k : Nat) (names : Option (String × String)) : String :=
  let old := (linesWithEndings before).toArray
  let new := (linesWithEndings after).toArray
  match hunks k (segments old new) with
  | [] => ""
  | hs =>
    let head := match names with
      | some (a, b) => "--- " ++ a ++ "\n+++ " ++ b ++ "\n"
      | none => ""
    head ++ String.join (hs.map (hunkText old new))

end Linewise.Align
