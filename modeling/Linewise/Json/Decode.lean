import Linewise.Json.Value
import Linewise.Decimal.Shortest
import Linewise.Text.Quote
/-! Decoding records from JSON values, with the messages of a derived decoder. A record is read
from an object, fields in key order, unknown ones ignored and the first missing one reported after
all present ones were read; or from an array of the fields in declaration order and nothing more. -/
namespace Linewise.Json

/-- How a value is named in a message about its kind. -/
def describe : Json → String
  | .null => "null"
  | .bool b => "boolean `" ++ (if b then "true" else "false") ++ "`"
  | .nat n => "integer `" ++ Nat.repr n ++ "`"
  | .negInt i => "integer `" ++ toString i ++ "`"
  | .float x => "floating point `" ++ Decimal.floatText x ++ "`"
  | .str s => "string " ++ Text.quoted s
  | .arr _ => "sequence"
  | .obj _ => "map"

def invalidType (j : Json) (expected : String) : String :=
  "invalid type: " ++ describe j ++ ", expected " ++ expected

def invalidLength (n : Nat) (expected : String) : String :=
  "invalid length " ++ Nat.repr n ++ ", expected " ++ expected

def missingField (name : String) : String :=
  "missing field `" ++ name ++ "`"

def duplicateField (name : String) : String :=
  "duplicate field `" ++ name ++ "`"

def wordMax : Nat := Nat.pow 2 64 - 1

/-- An unsigned machine-sized count. -/
def decodeCount : Json → Except String Nat
  | .nat n => if n ≤ wordMax then .ok n else .error (invalidType (.nat n) "usize")
  | .negInt i => .error ("invalid value: integer `" ++ toString i ++ "`, expected usize")
  | j => .error (invalidType j "usize")

def decodeString : Json → Except String String
  | .str s => .ok s
  | j => .error (invalidType j "a string")

def decodeList {α : Type} (item : Json → Except String α) : Json → Except String (List α)
  | .arr xs => xs.mapM item
  | j => .error (invalidType j "a sequence")

def recordShape (name : String) (n : Nat) : String :=
  "struct " ++ name ++ " with " ++ Nat.repr n ++ (if n == 1 then " element" else " elements")

/-- Decodes the fields of a record named `name`. Each field has a name and a decoder; the
answer lists the decoded fields in declaration order. -/
def decodeRecord {β : Type} (name : String) (fields : List (String × (Json → Except String β)))
    (j : Json) : Except String (List β) :=
  match j with
  | .obj kvs => do
    let found ← kvs.foldlM (fun acc (k, v) =>
      match fields.lookup k with
      | some dec => do pure ((k, ← dec v) :: acc)
      | none => pure acc) ([] : List (String × β))
    fields.mapM fun (k, _) =>
      match found.lookup k with
      | some b => .ok b
      | none => .error (missingField k)
  | .arr xs => do
    let rec go : Nat → List (String × (Json → Except String β)) → List Json → Except String (List β)
      | _, [], _ => .ok []
      | i, _ :: _, [] => .error (invalidLength i (recordShape name fields.length))
      | i, (_, dec) :: fs, x :: rest => do
        let b ← dec x
        pure (b :: (← go (i + 1) fs rest))
    let bs ← go 0 fields xs
    if fields.length < xs.length then .error (invalidLength xs.length "fewer elements in array")
    else .ok bs
  | j => .error (invalidType j ("struct " ++ name))

end Linewise.Json
