import Linewise.Json.Cursor
/-! Reading whole JSON values and documents. Arrays and objects may nest 127 deep. Between
items a comma is required and after the last one none is allowed; a document is one value with
nothing but blanks after it. Skipping a value checks the same grammar without keeping it. -/
namespace Linewise.Json

def enterNested : Reading Unit := do
  let c ← get
  if c.depth ≤ 1 then failAhead .recursionLimit
  else set { c with depth := c.depth - 1 }

def leaveNested : Reading Unit := modify fun c => { c with depth := c.depth + 1 }

def closeArray : Reading Unit := do
  match ← peekToken with
  | some ']' => bump
  | some ',' =>
    bump
    match ← peekToken with
    | some ']' => failAhead .trailingComma
    | _ => failAhead .trailingCharacters
  | some _ => failAhead .trailingCharacters
  | none => failAhead .eofInList

def closeObject : Reading Unit := do
  match ← peekToken with
  | some '}' => bump
  | some ',' => failAhead .trailingComma
  | some _ => failAhead .trailingCharacters
  | none => failAhead .eofInObject

/-- Moves to the next item of an array: `none` at its end, else the item's first character.
The first item is not checked here, so that a stray comma there is reported by the value
reader; later items must follow a comma. -/
def nextItem (first : Bool) : Reading (Option Char) := do
  match ← peekToken with
  | none => failAhead .eofInList
  | some ']' => pure none
  | some ch =>
    if first then pure (some ch)
    else if ch = ',' then
      bump
      match ← peekToken with
      | some ']' => failAhead .trailingComma
      | some next => pure (some next)
      | none => failAhead .eofInValue
    else failAhead .expectedListCommaOrEnd

def nextKey (first : Bool) : Reading (Option String) := do
  match ← peekToken with
  | none => failAhead .eofInObject
  | some '}' => pure none
  | some ch =>
    if first then
      if ch = '"' then bump; pure (some (← readString)) else failAhead .keyMustBeString
    else if ch = ',' then
      bump
      match ← peekToken with
      | some '"' => bump; pure (some (← readString))
      | some '}' => failAhead .trailingComma
      | some _ => failAhead .keyMustBeString
      | none => failAhead .eofInValue
    else failAhead .expectedObjectCommaOrEnd

def readColon : Reading Unit := do
  match ← peekToken with
  | some ':' => bump
  | some _ => failAhead .expectedColon
  | none => failAhead .eofInObject

mutual
/-- Reads one value, nesting at most `fuel` deep. -/
def readValue : Nat → Reading Json
  | 0 => failAhead .recursionLimit
  | fuel + 1 => do
    match ← peekToken with
    | none => failAhead .eofInValue
    | some 'n' => bump; readIdent ['u', 'l', 'l']; pure .null
    | some 't' => bump; readIdent ['r', 'u', 'e']; pure (.bool true)
    | some 'f' => bump; readIdent ['a', 'l', 's', 'e']; pure (.bool false)
    | some '-' => bump; readNumber false
    | some '"' => bump; pure (.str (← readString))
    | some '[' =>
      enterNested
      bump
      let items ← readItems fuel true #[]
      leaveNested
      closeArray
      pure (.arr items)
    | some '{' =>
      enterNested
      bump
      let fields ← readFields fuel true #[]
      leaveNested
      closeObject
      pure (Json.objOf fields)
    | some ch => if isDigit ch then readNumber true else failAhead .expectedValue

def readItems : Nat → Bool → Array Json → Reading (List Json)
  | 0, _, acc => pure acc.toList
  | fuel + 1, first, acc => do
    match ← nextItem first with
    | none => pure acc.toList
    | some _ => readItems fuel false (acc.push (← readValue fuel))

def readFields : Nat → Bool → Array (String × Json) → Reading (List (String × Json))
  | 0, _, acc => pure acc.toList
  | fuel + 1, first, acc => do
    match ← nextKey first with
    | none => pure acc.toList
    | some k =>
      readColon
      let v ← readValue fuel
      readFields fuel false (acc.push (k, v))
end

/-- Reads a document: one value and nothing but blanks after it. -/
def parse (s : String) : Except ReadError Json :=
  let c := Cursor.ofString s
  let run : Reading Json := do
    let v ← readValue (2 * c.rest.length + 8)
    match ← peekToken with
    | some _ => failAhead .trailingCharacters
    | none => pure v
  (run.run c).map Prod.fst

def skipNumber : Reading Unit := do
  match ← nextChar with
  | some '0' =>
    match ← peekChar with
    | some ch => if isDigit ch then failAhead .invalidNumber else pure ()
    | none => pure ()
  | some ch => if isDigit ch then skipDigits else failHere .invalidNumber
  | none => failHere .invalidNumber
  if (← peekChar) == some '.' then
    bump
    let c ← get
    skipDigits
    if (← get).rest.length == c.rest.length then failAhead .invalidNumber
  match ← peekChar with
  | some 'e' | some 'E' =>
    bump
    match ← peekChar with
    | some '+' | some '-' => bump
    | _ => pure ()
    match ← nextChar with
    | some ch => if isDigit ch then skipDigits else failHere .invalidNumber
    | none => failHere .invalidNumber
  | _ => pure ()

def skipStringBody : Nat → Reading Unit
  | 0 => failHere .eofInString
  | fuel + 1 => do
    match ← nextChar with
    | none => failHere .eofInString
    | some '"' => pure ()
    | some '\\' =>
      match ← nextChar with
      | none => failHere .eofInString
      | some 'u' => let _ ← readHex4; skipStringBody fuel
      | some ch =>
        if ch = '"' || ch = '\\' || ch = '/' || ch = 'b' || ch = 'f' || ch = 'n' || ch = 'r' || ch = 't'
        then skipStringBody fuel
        else failHere .invalidEscape
    | some ch => if ch.toNat < 32 then failHere .controlCharacter else skipStringBody fuel

def skipScalar (ch : Char) : Reading Bool := do
  match ch with
  | 'n' => bump; readIdent ['u', 'l', 'l']; pure false
  | 't' => bump; readIdent ['r', 'u', 'e']; pure false
  | 'f' => bump; readIdent ['a', 'l', 's', 'e']; pure false
  | '-' => bump; skipNumber; pure false
  | '"' => bump; skipStringBody ((← get).rest.length + 1); pure false
  | '[' | '{' => pure true
  | _ => if isDigit ch then skipNumber *> pure false else failAhead .expectedValue

/-- Skips values inside open nestings `open` (innermost first). `afterValue` says whether a
value was just completed, so that a comma or a closing bracket may follow. -/
def skipNested : Nat → List Char → Bool → Reading Unit
  | 0, _, _ => pure ()
  | _, [], true => pure ()
  | fuel + 1, stack, afterValue => do
    match stack, afterValue with
    | frame :: outer, true =>
      match ← peekToken with
      | some ',' =>
        bump
        if frame = '{' then skipKeyColon
        skipNested fuel stack false
      | some ch =>
        if (ch = ']' && frame = '[') || (ch = '}' && frame = '{') then
          bump
          skipNested fuel outer true
        else if frame = '[' then failAhead .expectedListCommaOrEnd
        else failAhead .expectedObjectCommaOrEnd
      | none => if frame = '[' then failAhead .eofInList else failAhead .eofInObject
    | _, _ =>
      match ← peekToken with
      | none => failAhead .eofInValue
      | some ch =>
        if ← skipScalar ch then
          bump
          match ← peekToken with
          | some close =>
            if (close = ']' && ch = '[') || (close = '}' && ch = '{') then
              bump
              skipNested fuel stack true
            else
              if ch = '{' then skipKeyColon
              skipNested fuel (ch :: stack) false
          | none => if ch = '[' then failAhead .eofInList else failAhead .eofInObject
        else skipNested fuel stack true
where
  /-- Skips a key and its colon. -/
  skipKeyColon : Reading Unit := do
    match ← peekToken with
    | some '"' => bump; skipStringBody ((← get).rest.length + 1)
    | some _ => failAhead .keyMustBeString
    | none => failAhead .eofInObject
    match ← peekToken with
    | some ':' => bump
    | some _ => failAhead .expectedColon
    | none => failAhead .eofInObject

def skipValue : Reading Unit := do
  skipNested (4 * (← get).rest.length + 8) [] false

end Linewise.Json
