/-! Shortest decimal text of binary64 floats: of the decimals that round to the float, one with
fewest significant digits, the nearest of those, a tie going to the even digit. Plain positional
notation from `0.0001` up to `1e16` (`.0` after an integer), otherwise one digit, a point unless
it stands alone, `e`, a sign and at least two exponent digits (`1e+16`, `2.5e-07`). -/
namespace Linewise.Decimal

/-- A positive rational `num / den`. -/
structure Ratio where
  num : Nat
  den : Nat

def scaled (a : Nat) (s t : Int) : Ratio :=
  ⟨a * Nat.pow 2 s.toNat * Nat.pow 10 t.toNat, Nat.pow 2 (-s).toNat * Nat.pow 10 (-t).toNat⟩

def Ratio.le (x y : Ratio) : Bool := x.num * y.den ≤ y.num * x.den

def Ratio.lt (x y : Ratio) : Bool := x.num * y.den < y.num * x.den

/-- The decimal exponent `p` with `10^(p-1) ≤ v < 10^p`, searched from `p` within `fuel` steps. -/
def decimalOrder (v : Ratio) : Nat → Int → Int
  | 0, p => p
  | fuel + 1, p =>
    if !(v.lt (scaled 1 0 p)) then decimalOrder v fuel (p + 1)
    else if v.lt (scaled 1 0 (p - 1)) then decimalOrder v fuel (p - 1)
    else p

/-- Digits `d` and exponent `e` with `d · 10^e` in the rounding interval of `m · 2^q`. -/
def shortestDigits (m : Nat) (q : Int) (lowerTight : Bool) : Nat × Int :=
  let v := scaled (4 * m) (q - 2) 0
  let lo := scaled (4 * m - (if lowerTight then 1 else 2)) (q - 2) 0
  let hi := scaled (4 * m + 2) (q - 2) 0
  let inside (x : Ratio) : Bool :=
    if m % 2 == 0 then lo.le x && x.le hi else lo.lt x && x.lt hi
  let p := decimalOrder v 700 0
  let rec search : Nat → Nat → Nat × Int
    | 0, _ => (m, q)
    | fuel + 1, k =>
      let e : Int := p - k
      let down := (v.num * Nat.pow 10 (-e).toNat) / (v.den * Nat.pow 10 e.toNat)
      let up := down + 1
      let downIn := inside (scaled down 0 e)
      let upIn := inside (scaled up 0 e)
      if downIn && upIn then
        -- compare the distances of the two neighbours to the value
        let twice := 2 * v.num * Nat.pow 10 (-e).toNat
        let mid := (2 * down + 1) * v.den * Nat.pow 10 e.toNat
        if twice < mid then (down, e)
        else if mid < twice then (up, e)
        else if down % 2 == 0 then (down, e) else (up, e)
      else if downIn then (down, e)
      else if upIn then (up, e)
      else search fuel (k + 1)
  search 17 1

def trimZeros : Nat → Nat × Int → Nat × Int
  | 0, de => de
  | fuel + 1, (d, e) => if d ≠ 0 && d % 10 == 0 then trimZeros fuel (d / 10, e + 1) else (d, e)

def fieldsDigits (biased mantissa : Nat) : Nat × Int :=
  if biased == 0 then
    trimZeros 40 (shortestDigits mantissa (-1074) false)
  else
    trimZeros 40 (shortestDigits (mantissa + Nat.pow 2 52) ((biased : Int) - 1075)
      (mantissa == 0 && 1 < biased))

def zeros (n : Nat) : String := String.ofList (List.replicate n '0')

/-- Lays out digits `d` and exponent `e` (value `d · 10^e`). -/
def layout (d : Nat) (e : Int) : String :=
  let s := (Nat.repr d).toList
  let len : Int := s.length
  let kk := len + e
  if 0 ≤ e && kk ≤ 16 then
    String.ofList s ++ zeros e.toNat ++ ".0"
  else if 0 < kk && kk ≤ 16 then
    String.ofList (s.take kk.toNat) ++ "." ++ String.ofList (s.drop kk.toNat)
  else if -4 < kk && kk ≤ 0 then
    "0." ++ zeros (-kk).toNat ++ String.ofList s
  else
    let power := (kk - 1).natAbs
    let exp := (if kk - 1 < 0 then "-" else "+") ++ (if power < 10 then "0" else "") ++ Nat.repr power
    match s with
    | [c] => String.singleton c ++ "e" ++ exp
    | c :: rest => String.singleton c ++ "." ++ String.ofList rest ++ "e" ++ exp
    | [] => "0e" ++ exp

/-- The shortest text of a finite float; infinities and NaN are written as `inf`, `-inf`, `NaN`. -/
def floatText (x : Float) : String :=
  let bits := x.toBits.toNat
  let negative := bits ≥ Nat.pow 2 63
  let biased := (bits / Nat.pow 2 52) % Nat.pow 2 11
  let mantissa := bits % Nat.pow 2 52
  let sign := if negative then "-" else ""
  if biased == 2047 then
    if mantissa == 0 then sign ++ "inf" else "NaN"
  else if biased == 0 && mantissa == 0 then sign ++ "0.0"
  else
    let (d, e) := fieldsDigits biased mantissa
    sign ++ layout d e

end Linewise.Decimal
