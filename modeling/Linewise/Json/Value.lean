/-! JSON values. Numbers keep the kind their text gives them: an integer without fraction or
exponent is a natural number when it is not negative and below `2^64`, a negative integer when
it is at least `-2^63`, and a binary64 float otherwise. Objects read from text hold each key once,
in ascending byte order of the keys, the last of several values of one key winning. -/
namespace Linewise

/-- A JSON value. -/
inductive Json where
  | null
  | bool (b : Bool)
  | nat (n : Nat)
  | negInt (i : Int)
  | float (x : Float)
  | str (s : String)
  | arr (items : List Json)
  | obj (fields : List (String × Json))
  deriving Inhabited

namespace Json

def insertField (k : String) (v : Json) : List (String × Json) → List (String × Json)
  | [] => [(k, v)]
  | (k', v') :: rest =>
    if k < k' then (k, v) :: (k', v') :: rest
    else if k = k' then (k, v) :: rest
    else (k', v') :: insertField k v rest

/-- The object of the given fields, keyed once each in sorted order; later fields win. -/
def objOf (fields : List (String × Json)) : Json :=
  .obj (fields.foldl (fun acc kv => insertField kv.1 kv.2 acc) [])

def field? (j : Json) (k : String) : Option Json :=
  match j with
  | .obj fields => fields.lookup k
  | _ => none

def items? : Json → Option (List Json)
  | .arr xs => some xs
  | _ => none

def str? : Json → Option String
  | .str s => some s
  | _ => none

def int64? : Json → Option Int
  | .nat n => if n < Nat.pow 2 63 then some n else none
  | .negInt i => some i
  | _ => none

def strs (xs : List String) : Json := .arr (xs.map .str)

end Json

end Linewise
