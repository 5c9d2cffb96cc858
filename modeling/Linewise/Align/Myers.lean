import Linewise.Align.Run
/-! Shortest alignment by the middle-snake method: common leading and trailing lines are kept,
and what is left is split at the middle snake of a shortest edit path, searched forward and
backward one distance at a time, each distance's diagonals from the highest down. -/
namespace Linewise.Align

/-- How far along the old sequence each diagonal `k` has reached; diagonal `k` is stored at
`k + offset`. -/
structure Frontier where
  offset : Nat
  cells : Array Nat

namespace Frontier

def start (reach : Nat) : Frontier :=
  ⟨reach + 1, Array.replicate (2 * reach + 3) 0⟩

def get (v : Frontier) (k : Int) : Nat :=
  v.cells.getD (k + v.offset).toNat 0

def set (v : Frontier) (k : Int) (x : Nat) : Frontier :=
  { v with cells := v.cells.setIfInBounds (k + v.offset).toNat x }

end Frontier

/-- The part `old[oldStart, oldStart + n)` compared with `new[newStart, newStart + m)`. -/
structure Window where
  old : Array String
  new : Array String
  oldStart : Nat
  newStart : Nat
  n : Nat
  m : Nat

namespace Window

def delta (w : Window) : Int := (w.n : Int) - w.m

def odd (w : Window) : Bool := w.delta % 2 == 1

end Window

def maxDistance (n m : Nat) : Nat := (n + m + 1) / 2 + 1

def diagonals (d : Nat) : List Int :=
  (List.range (d + 1)).map fun (i : Nat) => (d : Int) - 2 * (i : Int)

def entry (v : Frontier) (d k : Int) : Nat :=
  if k == -d || (k != d && v.get (k - 1) < v.get (k + 1)) then v.get (k + 1)
  else v.get (k - 1) + 1

/-- The forward search of one distance. It extends each diagonal by its common run and stops
at a point where a forward path meets a backward path of the previous round. -/
def forwardRound (w : Window) (d : Int) (back : Frontier) :
    Frontier → List Int → Frontier ⊕ (Nat × Nat)
  | front, [] => .inl front
  | front, k :: ks =>
    let x0 := entry front d k
    let y0 : Int := (x0 : Int) - k
    let x := if x0 < w.n && 0 ≤ y0 && y0 < w.m then
        x0 + commonPrefix w.old (w.oldStart + x0) (w.oldStart + w.n)
          w.new (w.newStart + y0.toNat) (w.newStart + w.m)
      else x0
    let front := front.set k x
    if w.odd && ((k - w.delta).natAbs : Int) ≤ d - 1 && w.n ≤ x + back.get (-(k - w.delta)) then
      .inr (x0 + w.oldStart, y0.toNat + w.newStart)
    else forwardRound w d back front ks

/-- The backward search of one distance, measured from the window's end. It stops where a
backward path meets a forward path of the same round. -/
def backwardRound (w : Window) (d : Int) (front : Frontier) :
    Frontier → List Int → Frontier ⊕ (Nat × Nat)
  | back, [] => .inl back
  | back, k :: ks =>
    let x0 := entry back d k
    let y0 : Int := (x0 : Int) - k
    let step := if x0 < w.n && 0 ≤ y0 && y0 < w.m then
        commonSuffix w.old w.oldStart (w.oldStart + w.n - x0)
          w.new w.newStart (w.newStart + (w.m - y0.toNat))
      else 0
    let x := x0 + step
    let y := y0 + step
    let back := back.set k x
    if !w.odd && ((k - w.delta).natAbs : Int) ≤ d && w.n ≤ x + front.get (-(k - w.delta)) then
      .inr (w.n - x + w.oldStart, (w.m - y).toNat + w.newStart)
    else backwardRound w d front back ks

def snakeSearch (w : Window) (d : Nat) : Nat → Frontier → Frontier → Option (Nat × Nat)
  | 0, _, _ => none
  | rounds + 1, front, back =>
    match forwardRound w d back front (diagonals d) with
    | .inr p => some p
    | .inl front =>
      match backwardRound w d front back (diagonals d) with
      | .inr p => some p
      | .inl back => snakeSearch w (d + 1) rounds front back

/-- The point where a shortest edit path through the window crosses its middle snake. -/
def middleSnake (w : Window) : Option (Nat × Nat) :=
  let reach := maxDistance w.n w.m
  snakeSearch w 0 reach (Frontier.start reach) (Frontier.start reach)

/-- Runs aligning `old[os, oe)` with `new[ns, ne)`. The depth of the division is bounded by
`fuel`; a window whose sides share nothing is dropped and added whole. -/
def divide (old new : Array String) : Nat → Nat → Nat → Nat → Nat → List Run
  | fuel, os, oe, ns, ne =>
    let p := commonPrefix old os oe new ns ne
    let lead : List Run := if 0 < p then [⟨.keep, os, ns, p⟩] else []
    let os := os + p
    let ns := ns + p
    let s := commonSuffix old os oe new ns ne
    let tail : List Run := if 0 < s then [⟨.keep, oe - s, ne - s, s⟩] else []
    let oe := oe - s
    let ne := ne - s
    let whole : List Run := [⟨.drop, os, ns, oe - os⟩, ⟨.add, os, ns, ne - ns⟩]
    let middle : List Run :=
      if oe ≤ os && ne ≤ ns then []
      else if ne ≤ ns then [⟨.drop, os, ns, oe - os⟩]
      else if oe ≤ os then [⟨.add, os, ns, ne - ns⟩]
      else match fuel with
        | 0 => whole
        | fuel + 1 =>
          match middleSnake ⟨old, new, os, ns, oe - os, ne - ns⟩ with
          | some (x, y) => divide old new fuel os x ns y ++ divide old new fuel x oe y ne
          | none => whole
    lead ++ middle ++ tail

def shortestRuns (old new : Array String) : List Run :=
  divide old new (old.size + new.size + 1) 0 old.size 0 new.size

end Linewise.Align
