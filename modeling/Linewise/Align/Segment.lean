import Linewise.Align.Myers
import Linewise.Align.Slide
/-! Segments of an alignment: equal stretches, replacements, deletions and insertions with
their half-open ranges in the old and the new sequence. Runs are folded into segments by
joining neighbouring kept runs into one equal segment and a dropped run followed by added
runs into one replacement. -/
namespace Linewise.Align

inductive Tag where
  | equal
  | replace
  | delete
  | insert
  deriving DecidableEq, Repr, Inhabited

def Tag.name : Tag → String
  | .equal => "equal"
  | .replace => "replace"
  | .delete => "delete"
  | .insert => "insert"

def Tag.title : Tag → String
  | .equal => "Equal"
  | .replace => "Replace"
  | .delete => "Delete"
  | .insert => "Insert"

/-- A segment with half-open ranges `[oldStart, oldEnd)` and `[newStart, newEnd)`. -/
structure Segment where
  tag : Tag
  oldStart : Nat
  oldEnd : Nat
  newStart : Nat
  newEnd : Nat
  deriving DecidableEq, Repr, Inhabited

def Segment.oldLen (s : Segment) : Nat := s.oldEnd - s.oldStart

def Segment.newLen (s : Segment) : Nat := s.newEnd - s.newStart

/-- Runs waiting to be written: a kept stretch `(old, new, len)`, a dropped stretch
`(old, len, new)` and an added stretch `(old, new, len)`. -/
structure Folding where
  done : Array Segment := #[]
  kept : Option (Nat × Nat × Nat) := none
  dropped : Option (Nat × Nat × Nat) := none
  added : Option (Nat × Nat × Nat) := none

namespace Folding

def flushKept (f : Folding) : Folding :=
  match f.kept with
  | some (o, n, l) => { f with done := f.done.push ⟨.equal, o, o + l, n, n + l⟩, kept := none }
  | none => f

/-- Writes the pending change: a replacement when lines were both dropped and added. -/
def flushChange (f : Folding) : Folding :=
  match f.dropped, f.added with
  | some (o, l, _), some (_, n, k) =>
    { f with done := f.done.push ⟨.replace, o, o + l, n, n + k⟩, dropped := none, added := none }
  | some (o, l, n), none =>
    { f with done := f.done.push ⟨.delete, o, o + l, n, n⟩, dropped := none }
  | none, some (o, n, k) =>
    { f with done := f.done.push ⟨.insert, o, o, n, n + k⟩, added := none }
  | none, none => f

def step (f : Folding) (r : Run) : Folding :=
  match r.move with
  | .keep =>
    let f := f.flushChange
    { f with kept := some (match f.kept with
      | some (o, n, l) => (o, n, l + r.len)
      | none => (r.oldStart, r.newStart, r.len)) }
  | .drop =>
    let f := f.flushKept
    { f with dropped := some (match f.dropped with
      | some (o, l, n) => (o, l + r.len, n)
      | none => (r.oldStart, r.len, r.newStart)) }
  | .add =>
    let f := f.flushKept
    { f with added := some (match f.added with
      | some (o, n, l) => (o, n, l + r.len)
      | none => (r.oldStart, r.newStart, r.len)) }

def finish (f : Folding) : List Segment :=
  (f.flushKept.flushChange).done.toList

end Folding

def segmentsOfRuns (rs : List Run) : List Segment :=
  (rs.foldl Folding.step {}).finish

/-- The segments of the alignment of two line sequences: a shortest alignment, with its changes
slid together and folded into replacements. -/
def segments (old new : Array String) : List Segment :=
  segmentsOfRuns (slideChanges old new (shortestRuns old new))

end Linewise.Align
