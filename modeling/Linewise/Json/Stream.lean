import Linewise.Json.Read
import Linewise.Json.Decode
/-! Reading typed values straight from JSON text, with the messages and places of a derived
decoder. A value of the wrong kind is read as far as its kind shows; a record is an object with
unknown keys skipped, or an array of its fields; a message about a whole record is placed after
its closing bracket when one follows. -/
namespace Linewise.Json

def failPlaced {α : Type} (msg : String) : Reading α := do
  let c ← get
  throw { problem := .custom msg, place := some c.here }

def placed {α : Type} : Except String α → Reading α
  | .ok a => pure a
  | .error msg => failPlaced msg

/-- Fails because the value ahead is not what `expected` names. Scalars are read first, so the
message names them and stands after them; an array or object is named without being entered. -/
def unexpectedValue {α : Type} (expected : String) : Reading α := do
  match ← peekToken with
  | none => failAhead .eofInValue
  | some 'n' => bump; readIdent ['u', 'l', 'l']; failPlaced (invalidType .null expected)
  | some 't' => bump; readIdent ['r', 'u', 'e']; failPlaced (invalidType (.bool true) expected)
  | some 'f' => bump; readIdent ['a', 'l', 's', 'e']; failPlaced (invalidType (.bool false) expected)
  | some '-' => bump; failPlaced (invalidType (← readNumber false) expected)
  | some '"' => bump; failPlaced (invalidType (.str (← readString)) expected)
  | some '[' => failPlaced (invalidType (.arr []) expected)
  | some '{' => failPlaced (invalidType (.obj []) expected)
  | some ch =>
    if isDigit ch then failPlaced (invalidType (← readNumber true) expected)
    else failAhead .expectedValue

def expectCount : Reading Nat := do
  match ← peekToken with
  | none => failAhead .eofInValue
  | some '-' => bump; placed (decodeCount (← readNumber false))
  | some ch =>
    if isDigit ch then placed (decodeCount (← readNumber true)) else unexpectedValue "usize"

def expectString : Reading String := do
  match ← peekToken with
  | none => failAhead .eofInValue
  | some '"' => bump; readString
  | some _ => unexpectedValue "a string"

/-- Reads the entries of a record written as an object, after its opening brace, keeping the
known fields by name (latest first). Stops at the closing brace without reading it, or with a
message when a known field comes twice. -/
def recordEntries {β : Type} (fields : List (String × Reading β)) :
    Nat → Bool → List (String × β) → Reading (Except String (List (String × β)))
  | 0, _, acc => pure (.ok acc)
  | fuel + 1, first, acc => do
    match ← nextKey first with
    | none => pure (.ok acc)
    | some k =>
      match fields.lookup k with
      | some field =>
        if (acc.lookup k).isSome then pure (.error (duplicateField k))
        else
          readColon
          let v ← field
          recordEntries fields fuel false ((k, v) :: acc)
      | none =>
        readColon
        skipValue
        recordEntries fields fuel false acc

def collectFields {β : Type} (fields : List (String × Reading β)) (found : List (String × β)) :
    Except String (List β) :=
  fields.mapM fun (k, _) =>
    match found.lookup k with
    | some b => .ok b
    | none => .error (missingField k)

/-- Reads the items of a record written as an array, one per field in declaration order;
`read` counts the items read so far. Stops before the closing bracket, or with a message when
the array ends early. -/
def recordItems {β : Type} (name : String) (total : Nat) :
    Nat → List (String × Reading β) → Reading (Except String (List β))
  | _, [] => pure (.ok [])
  | read, (_, field) :: rest => do
    match ← nextItem (read == 0) with
    | none => pure (.error (invalidLength read (recordShape name total)))
    | some _ =>
      let b ← field
      let more ← recordItems name total (read + 1) rest
      pure (more.map (b :: ·))

/-- Where reading stands after looking for the end of an object: past the closing brace when it
comes next, else past the blanks. -/
def passObjectEnd (c : Cursor) : Cursor :=
  let c := c.skipBlanks
  if c.peek == some '}' then c.bump else c

/-- Where reading stands after looking for the end of an array: past the closing bracket when it
comes next, past a comma and the blanks after it, or else past the blanks. -/
def passArrayEnd (c : Cursor) : Cursor :=
  let c := c.skipBlanks
  match c.peek with
  | some ']' => c.bump
  | some ',' => c.bump.skipBlanks
  | _ => c

/-- Finishes a record: on success its closing bracket must follow; a message about the record
is placed where reading stands once the end was looked for. -/
def finishRecord {α : Type} (result : Except String α) (close : Reading Unit)
    (pass : Cursor → Cursor) : Reading α := do
  match result with
  | .ok a => close; pure a
  | .error msg =>
    modify pass
    failPlaced msg

/-- Reads a record named `name` whose fields, in declaration order, have the given readers. -/
def readRecord {β : Type} (name : String) (fields : List (String × Reading β)) :
    Reading (List β) := do
  match ← peekToken with
  | none => failAhead .eofInValue
  | some '[' =>
    enterNested
    bump
    let result ← recordItems name fields.length 0 fields
    leaveNested
    finishRecord result closeArray passArrayEnd
  | some '{' =>
    enterNested
    bump
    let entries ← recordEntries fields ((← get).rest.length + 1) true []
    leaveNested
    finishRecord (entries.bind (collectFields fields)) closeObject passObjectEnd
  | some _ => unexpectedValue ("struct " ++ name)

def listItems {α : Type} (item : Reading α) : Nat → Bool → Array α → Reading (List α)
  | 0, _, acc => pure acc.toList
  | fuel + 1, first, acc => do
    match ← nextItem first with
    | none => pure acc.toList
    | some _ => listItems item fuel false (acc.push (← item))

def readList {α : Type} (item : Reading α) : Reading (List α) := do
  match ← peekToken with
  | none => failAhead .eofInValue
  | some '[' =>
    enterNested
    bump
    let items ← listItems item ((← get).rest.length + 1) true #[]
    leaveNested
    closeArray
    pure items
  | some _ => unexpectedValue "a sequence"

/-- Reads a whole document with `r`: nothing but blanks may follow. -/
def readDocument {α : Type} (r : Reading α) (s : String) : Except ReadError α :=
  let run : Reading α := do
    let a ← r
    match ← peekToken with
    | some _ => failAhead .trailingCharacters
    | none => pure a
  (run.run (Cursor.ofString s)).map Prod.fst

end Linewise.Json
