/-! Runs of an alignment between an old and a new line sequence. A run keeps, drops or adds
`len` consecutive lines; it sits at `oldStart` in the old sequence and `newStart` in the new
one, and covers lines only on the sides it touches. The moves below shift, grow and shrink a
run the way sliding it along a sequence requires. -/
namespace Linewise.Align

inductive Move where
  | keep
  | drop
  | add
  deriving DecidableEq, Repr, Inhabited

/-- A run of one move over consecutive lines. -/
structure Run where
  move : Move
  oldStart : Nat
  newStart : Nat
  len : Nat
  deriving DecidableEq, Repr, Inhabited

namespace Run

def oldLen (r : Run) : Nat :=
  match r.move with
  | .add => 0
  | _ => r.len

def newLen (r : Run) : Nat :=
  match r.move with
  | .drop => 0
  | _ => r.len

def oldEnd (r : Run) : Nat := r.oldStart + r.oldLen

def newEnd (r : Run) : Nat := r.newStart + r.newLen

def isEmpty (r : Run) : Bool := r.len == 0

def shiftLeft (r : Run) (n : Nat) : Run :=
  { r with oldStart := r.oldStart - n, newStart := r.newStart - n }

def shiftRight (r : Run) (n : Nat) : Run :=
  { r with oldStart := r.oldStart + n, newStart := r.newStart + n }

def growLeft (r : Run) (n : Nat) : Run :=
  { r with oldStart := r.oldStart - n, newStart := r.newStart - n, len := r.len + n }

def growRight (r : Run) (n : Nat) : Run :=
  { r with len := r.len + n }

def shrinkLeft (r : Run) (n : Nat) : Run :=
  { r with len := r.len - n }

def shrinkRight (r : Run) (n : Nat) : Run :=
  { r with oldStart := r.oldStart + n, newStart := r.newStart + n, len := r.len - n }

end Run

/-- The number of leading positions at which `a` from `i` and `b` from `j` agree, looking at
no more than `bound` positions. -/
def prefixMatch (a : Array String) (i : Nat) (b : Array String) (j : Nat) : Nat → Nat
  | 0 => 0
  | bound + 1 => if a[i]? == b[j]? then prefixMatch a (i + 1) b (j + 1) bound + 1 else 0

/-- The number of trailing positions at which `a` before `i` and `b` before `j` agree, looking
at no more than `bound` positions. -/
def suffixMatch (a : Array String) (i : Nat) (b : Array String) (j : Nat) : Nat → Nat
  | 0 => 0
  | bound + 1 =>
    if a[i - 1]? == b[j - 1]? then suffixMatch a (i - 1) b (j - 1) bound + 1 else 0

/-- Common prefix length of the ranges `a[i, i')` and `b[j, j')`. -/
def commonPrefix (a : Array String) (i i' : Nat) (b : Array String) (j j' : Nat) : Nat :=
  prefixMatch a i b j (min (i' - i) (j' - j))

/-- Common suffix length of the ranges `a[i, i')` and `b[j, j')`. -/
def commonSuffix (a : Array String) (i i' : Nat) (b : Array String) (j j' : Nat) : Nat :=
  suffixMatch a i' b j' (min (i' - i) (j' - j))

end Linewise.Align
