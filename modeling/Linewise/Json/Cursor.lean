import Linewise.Json.Value
/-! Reading JSON text one character at a time, with the line and byte column of the cursor. An
error is placed where the cursor stands or one character further, as if the character looked at
had been read. Strings, numbers and the literals are read here. -/
namespace Linewise.Json

/-- What can go wrong while reading JSON text. -/
inductive Problem where
  | eofInList
  | eofInObject
  | eofInString
  | eofInValue
  | expectedColon
  | expectedListCommaOrEnd
  | expectedObjectCommaOrEnd
  | expectedIdent
  | expectedValue
  | invalidEscape
  | invalidNumber
  | numberOutOfRange
  | controlCharacter
  | keyMustBeString
  | loneLeadingSurrogate
  | trailingComma
  | trailingCharacters
  | unexpectedEndOfHexEscape
  | recursionLimit
  | custom (text : String)
  deriving Inhabited

def Problem.text : Problem → String
  | .eofInList => "EOF while parsing a list"
  | .eofInObject => "EOF while parsing an object"
  | .eofInString => "EOF while parsing a string"
  | .eofInValue => "EOF while parsing a value"
  | .expectedColon => "expected `:`"
  | .expectedListCommaOrEnd => "expected `,` or `]`"
  | .expectedObjectCommaOrEnd => "expected `,` or `\x7d`"
  | .expectedIdent => "expected ident"
  | .expectedValue => "expected value"
  | .invalidEscape => "invalid escape"
  | .invalidNumber => "invalid number"
  | .numberOutOfRange => "number out of range"
  | .controlCharacter => "control character (\\u0000-\\u001F) found while parsing a string"
  | .keyMustBeString => "key must be a string"
  | .loneLeadingSurrogate => "lone leading surrogate in hex escape"
  | .trailingComma => "trailing comma"
  | .trailingCharacters => "trailing characters"
  | .unexpectedEndOfHexEscape => "unexpected end of hex escape"
  | .recursionLimit => "recursion limit exceeded"
  | .custom text => text

/-- A reading error and, when known, the line and column where it arose. -/
structure ReadError where
  problem : Problem
  place : Option (Nat × Nat) := none
  deriving Inhabited

def ReadError.message (e : ReadError) : String :=
  match e.place with
  | some (l, c) => e.problem.text ++ " at line " ++ Nat.repr l ++ " column " ++ Nat.repr c
  | none => e.problem.text

/-- A place in JSON text. -/
structure Cursor where
  rest : List Char
  line : Nat := 1
  column : Nat := 0
  depth : Nat := 128
  deriving Inhabited

namespace Cursor

def ofString (s : String) : Cursor := { rest := s.toList }

def here (c : Cursor) : Nat × Nat := (c.line, c.column)

/-- Where the cursor would stand after reading the next character. -/
def ahead (c : Cursor) : Nat × Nat :=
  match c.rest with
  | [] => (c.line, c.column)
  | '\n' :: _ => (c.line + 1, 0)
  | _ :: _ => (c.line, c.column + 1)

def peek (c : Cursor) : Option Char := c.rest.head?

def bump (c : Cursor) : Cursor :=
  match c.rest with
  | [] => c
  | ch :: r =>
    if ch = '\n' then { c with rest := r, line := c.line + 1, column := 0 }
    else { c with rest := r, column := c.column + ch.utf8Size }

def isBlank (ch : Char) : Bool := ch = ' ' || ch = '\n' || ch = '\t' || ch = '\r'

def skipWhile (p : Char → Bool) : Nat → Cursor → Cursor
  | 0, c => c
  | n + 1, c =>
    match c.peek with
    | some ch => if p ch then skipWhile p n c.bump else c
    | none => c

def skipBlanks (c : Cursor) : Cursor := skipWhile isBlank c.rest.length c

end Cursor

abbrev Reading := StateT Cursor (Except ReadError)

def failHere {α : Type} (p : Problem) : Reading α := do
  let c ← get
  throw { problem := p, place := some c.here }

def failAhead {α : Type} (p : Problem) : Reading α := do
  let c ← get
  throw { problem := p, place := some c.ahead }

def peekToken : Reading (Option Char) := do
  let c := (← get).skipBlanks
  set c
  pure c.peek

def peekChar : Reading (Option Char) := do
  pure (← get).peek

def bump : Reading Unit := modify Cursor.bump

def nextChar : Reading (Option Char) := do
  let c ← get
  set c.bump
  pure c.peek

def readIdent : List Char → Reading Unit
  | [] => pure ()
  | e :: es => do
    match ← nextChar with
    | none => failHere .eofInValue
    | some ch => if ch = e then readIdent es else failHere .expectedIdent

def hexValue (ch : Char) : Option Nat :=
  if '0' ≤ ch && ch ≤ '9' then some (ch.toNat - 48)
  else if 'a' ≤ ch && ch ≤ 'f' then some (ch.toNat - 87)
  else if 'A' ≤ ch && ch ≤ 'F' then some (ch.toNat - 55)
  else none

/-- Reads four hexadecimal digits of an escape. Fewer than four bytes left is an unfinished
string; four bytes that are not all hex digits are an invalid escape after them. -/
def readHex4 : Reading Nat := do
  let c ← get
  let four := c.rest.take 4
  if (four.map Char.utf8Size).foldr (· + ·) 0 < 4 then
    set (Cursor.skipWhile (fun _ => true) c.rest.length c)
    failHere .eofInString
  else
    match four.map hexValue with
    | [some a, some b, some d, some e] =>
      set (Cursor.skipWhile (fun _ => true) 4 c)
      pure (((a * 16 + b) * 16 + d) * 16 + e)
    | _ =>
      set { c with column := c.column + 4, rest := c.rest.drop 4 }
      failHere .invalidEscape

/-- Reads the escape after `\u`; a high surrogate must be followed by `\u` and a low one. -/
def readUnicodeEscape : Reading Char := do
  let n ← readHex4
  if 0xDC00 ≤ n && n ≤ 0xDFFF then failHere .loneLeadingSurrogate
  else if n < 0xD800 || 0xDBFF < n then pure (Char.ofNat n)
  else
    match ← peekChar with
    | none => failHere .eofInString
    | some '\\' =>
      bump
      match ← peekChar with
      | none => failHere .eofInString
      | some 'u' =>
        bump
        let n2 ← readHex4
        if n2 < 0xDC00 || 0xDFFF < n2 then failHere .loneLeadingSurrogate
        else pure (Char.ofNat (((n - 0xD800) * 0x400 + (n2 - 0xDC00)) + 0x10000))
      | some _ => bump; failHere .unexpectedEndOfHexEscape
    | some _ => bump; failHere .unexpectedEndOfHexEscape

def readEscape : Reading Char := do
  match ← nextChar with
  | none => failHere .eofInString
  | some '"' => pure '"'
  | some '\\' => pure '\\'
  | some '/' => pure '/'
  | some 'b' => pure (Char.ofNat 8)
  | some 'f' => pure (Char.ofNat 12)
  | some 'n' => pure '\n'
  | some 'r' => pure '\r'
  | some 't' => pure '\t'
  | some 'u' => readUnicodeEscape
  | some _ => failHere .invalidEscape

/-- Reads the rest of a string whose opening quote was read, up to `fuel` characters. -/
def readStringBody : Nat → Array Char → Reading String
  | 0, _ => failHere .eofInString
  | fuel + 1, acc => do
    match ← nextChar with
    | none => failHere .eofInString
    | some '"' => pure (String.ofList acc.toList)
    | some '\\' => readStringBody fuel (acc.push (← readEscape))
    | some ch =>
      if ch.toNat < 32 then failHere .controlCharacter
      else readStringBody fuel (acc.push ch)

def readString : Reading String := do
  readStringBody ((← get).rest.length + 1) #[]

def isDigit (ch : Char) : Bool := '0' ≤ ch && ch ≤ '9'

/-- Powers of ten as floats, exact as decimal literals are. -/
def tenPower (e : Nat) : Float := Float.ofScientific 1 false e

/-- `sig · 10^exp` computed by one multiplication or division by a power of ten, stepping by
`10^308` when the power is beyond range; a product that overflows is out of range. -/
def scaleFloat (positive : Bool) (sig : Nat) (exp : Int) : Reading Float := do
  let rec go : Nat → Float → Int → Reading Float
    | 0, f, _ => pure f
    | fuel + 1, f, e =>
      if e.natAbs ≤ 308 then
        if 0 ≤ e then
          let g := f * tenPower e.natAbs
          if g.isInf then failHere .numberOutOfRange else pure g
        else pure (f / tenPower e.natAbs)
      else if f == 0 then pure f
      else if 0 ≤ e then failHere .numberOutOfRange
      else go fuel (f / tenPower 308) (e + 308)
  let f ← go 8 (Float.ofNat sig) exp
  pure (if positive then f else -f)

def u64Max : Nat := Nat.pow 2 64 - 1

def i32Max : Int := Int.pow 2 31 - 1

def clampI32 (e : Int) : Int := max (-(Int.pow 2 31)) (min i32Max e)

/-- Reads digits while the exponent fits 32 bits; answers the exponent or `none` on overflow. -/
def readExponentDigits : Nat → Int → Reading (Option Int)
  | 0, e => pure (some e)
  | fuel + 1, e => do
    match ← peekChar with
    | some ch =>
      if isDigit ch then
        bump
        let e' := e * 10 + (ch.toNat - 48)
        if i32Max < e' then pure none else readExponentDigits fuel e'
      else pure (some e)
    | none => pure (some e)

def skipDigits : Reading Unit := do
  let c ← get
  set (Cursor.skipWhile isDigit c.rest.length c)

def readExponent (positive : Bool) (sig : Nat) (start : Int) : Reading Float := do
  bump
  let upward ← do
    match ← peekChar with
    | some '+' => bump; pure true
    | some '-' => bump; pure false
    | _ => pure true
  match ← nextChar with
  | none => failHere .eofInValue
  | some ch =>
    if isDigit ch then
      match ← readExponentDigits (← get).rest.length (ch.toNat - 48) with
      | some e => scaleFloat positive sig (clampI32 (if upward then start + e else start - e))
      | none =>
        if sig ≠ 0 && upward then failHere .numberOutOfRange
        else
          skipDigits
          pure (if positive then 0.0 else -0.0)
    else failHere .invalidNumber

/-- Reads fraction digits into the significand; digits beyond 64 bits are skipped. -/
def readFraction : Nat → Nat → Int → Reading (Nat × Int × Bool)
  | 0, sig, e => pure (sig, e, false)
  | fuel + 1, sig, e => do
    match ← peekChar with
    | some ch =>
      if isDigit ch then
        let d := ch.toNat - 48
        if u64Max < sig * 10 + d then
          skipDigits
          pure (sig, e, true)
        else
          bump
          readFraction fuel (sig * 10 + d) (e - 1)
      else pure (sig, e, false)
    | none => pure (sig, e, false)

def readDecimal (positive : Bool) (sig : Nat) (start : Int) : Reading Float := do
  bump
  let (sig', e, overflowed) ← readFraction (← get).rest.length sig 0
  if !overflowed && e == 0 then
    match ← peekChar with
    | some _ => failAhead .invalidNumber
    | none => failAhead .eofInValue
  else
    match ← peekChar with
    | some 'e' | some 'E' => readExponent positive sig' (start + e)
    | _ => scaleFloat positive sig' (start + e)

/-- Reads integer digits into the significand up to 64 bits; answers the significand and how
many further digits were skipped, or `none` when no digit was beyond 64 bits. -/
def readIntegerDigits : Nat → Nat → Reading (Nat × Option Nat)
  | 0, sig => pure (sig, none)
  | fuel + 1, sig => do
    match ← peekChar with
    | some ch =>
      if isDigit ch then
        let d := ch.toNat - 48
        if u64Max < sig * 10 + d then
          let c ← get
          let c' := Cursor.skipWhile isDigit c.rest.length c
          set c'
          pure (sig, some (c.rest.length - c'.rest.length))
        else
          bump
          readIntegerDigits fuel (sig * 10 + d)
      else pure (sig, none)
    | none => pure (sig, none)

/-- The value of an integer literal: natural, negative within 64 bits, or else a float. -/
def integerValue (positive : Bool) (sig : Nat) : Json :=
  if positive then .nat sig
  else if sig == 0 then .float (-0.0)
  else if sig ≤ Nat.pow 2 63 then .negInt (-(sig : Int))
  else .float (-(Float.ofNat sig))

def readNumber (positive : Bool) : Reading Json := do
  match ← nextChar with
  | none => failHere .eofInValue
  | some '0' =>
    match ← peekChar with
    | some ch =>
      if isDigit ch then failAhead .invalidNumber
      else if ch = '.' then return .float (← readDecimal positive 0 0)
      else if ch = 'e' || ch = 'E' then return .float (← readExponent positive 0 0)
      else return integerValue positive 0
    | none => return integerValue positive 0
  | some ch =>
    if isDigit ch then
      let (sig, skipped) ← readIntegerDigits (← get).rest.length (ch.toNat - 48)
      let start : Int := skipped.getD 0
      match ← peekChar with
      | some '.' => return .float (← readDecimal positive sig start)
      | some 'e' | some 'E' => return .float (← readExponent positive sig start)
      | _ =>
        match skipped with
        | some _ => return .float (← scaleFloat positive sig start)
        | none => return integerValue positive sig
    else failHere .invalidNumber

end Linewise.Json
