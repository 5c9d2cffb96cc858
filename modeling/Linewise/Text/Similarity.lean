/-! Jaro similarity of two texts, used to suggest a known name for a mistyped one: characters
match when equal and near enough, each of the second text at most once, first free from the left.
It is computed in binary64, the three shares summed from the left and divided by three, because a
suggestion needs more than seven tenths and an exact seven tenths can round either way. -/
namespace Linewise.Text

/-- Marks the first free position of `b` in `[lo, hi)` holding `c`; answers the flags and whether
one was found. -/
def claimMatch (b : Array Char) (c : Char) (flags : Array Bool) : Nat → Nat → Array Bool × Bool
  | 0, _ => (flags, false)
  | k + 1, j =>
    if b[j]? == some c && flags[j]? == some false then (flags.set! j true, true)
    else claimMatch b c flags k (j + 1)

def matchFlags (a b : Array Char) (reach : Nat) : Array Bool × Array Bool :=
  (List.range a.size).foldl (fun (fa, fb) i =>
    let lo := i - reach
    let hi := min b.size (i + reach + 1)
    match a[i]? with
    | some c =>
      let (fb, found) := claimMatch b c fb (hi - lo) lo
      (if found then fa.set! i true else fa, fb)
    | none => (fa, fb)) (Array.replicate a.size false, Array.replicate b.size false)

def matchedChars (s : Array Char) (flags : Array Bool) : List Char :=
  ((s.toList.zip flags.toList).filter (·.2)).map (·.1)

/-- The Jaro similarity of two texts. -/
def jaro (x y : String) : Float :=
  let a := x.toList.toArray
  let b := y.toList.toArray
  if a.size == 0 && b.size == 0 then 1
  else if a.size == 0 || b.size == 0 then 0
  else
    let reach := max a.size b.size / 2 - 1
    let (fa, fb) := matchFlags a b reach
    let ma := matchedChars a fa
    let mb := matchedChars b fb
    let m := ma.length
    if m == 0 then 0
    else
      let t := ((ma.zip mb).filter fun (p, q) => p != q).length / 2
      (m.toFloat / a.size.toFloat + m.toFloat / b.size.toFloat + (m - t).toFloat / m.toFloat) / 3

/-- The candidates more than seven tenths similar to `x`, from the least to the most similar;
candidates equally similar keep their order. -/
def similarNames (x : String) (candidates : List String) : List String :=
  let scored := (candidates.map fun c => (jaro x c, c)).filter fun p => p.1 > 0.7
  (scored.mergeSort fun p q => !(q.1 < p.1)).map (·.2)

end Linewise.Text
