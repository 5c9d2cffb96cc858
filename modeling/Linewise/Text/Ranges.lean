/-! Sets of code points kept as sorted arrays of inclusive ranges that neither overlap nor
touch. Membership is decided by halving the window of ranges that may still hold the code
point; the window shrinks on every step, so a fuel of 64 is more than any table needs. -/
namespace Linewise.Text

/-- Whether `n` lies in one of the sorted ranges `rs[lo, hi)`, by halving the search window. -/
def inRanges (rs : Array (Nat × Nat)) (n : Nat) : Nat → Nat → Nat → Bool
  | 0, _, _ => false
  | fuel + 1, lo, hi =>
    if hi ≤ lo then false
    else
      let mid := (lo + hi) / 2
      match rs[mid]? with
      | none => false
      | some (a, b) =>
        if n < a then inRanges rs n fuel lo mid
        else if b < n then inRanges rs n fuel (mid + 1) hi
        else true

def memRanges (rs : Array (Nat × Nat)) (n : Nat) : Bool :=
  inRanges rs n 64 0 rs.size

end Linewise.Text
