import Linewise.Text.Identifier
import Linewise.Text.Blank
/-! The lexical layer of the Python recognizer: places (rows from zero, byte columns), tokens, and
what lies between them. A measuring run from the end of the last token reports whether a line
ended and how deep the next token's line is indented: a tab counts eight, comment lines are
passed, a backslash joins lines, and a comment on the first line makes the run give up. -/
namespace Linewise.Python

open Linewise.Text

/-- A place in the text: the index of a character, its row and its byte column. -/
structure Place where
  index : Nat := 0
  row : Nat := 0
  column : Nat := 0
  deriving Inhabited, BEq, Repr

def Place.step (p : Place) (c : Char) : Place :=
  if c == '\n' then { index := p.index + 1, row := p.row + 1, column := 0 }
  else { p with index := p.index + 1, column := p.column + c.utf8Size }

def charAt (cs : Array Char) (i : Nat) : Option Char := cs[i]?

def charIs (cs : Array Char) (i : Nat) (p : Char → Bool) : Bool :=
  match cs[i]? with
  | some c => p c
  | none => false

def advanceWhile (cs : Array Char) (ok : Char → Bool) (p : Place) : Place :=
  go (cs.size - p.index) p
where
  go : Nat → Place → Place
    | 0, p => p
    | n + 1, p =>
      match cs[p.index]? with
      | some c => if ok c then go n (p.step c) else p
      | none => p

def advanceBy (cs : Array Char) : Nat → Place → Place
  | 0, p => p
  | k + 1, p =>
    match cs[p.index]? with
    | some c => advanceBy cs k (p.step c)
    | none => p

structure Quote where
  format : Bool
  raw : Bool
  bytes : Bool
  closer : Char
  triple : Bool
  deriving Inhabited, BEq, Repr

/-- A token as the recognizer sees it. Keywords are words: whether a word is a keyword depends
on where it stands. -/
inductive Token where
  | word (text : String)
  | number
  | opening (q : Quote)
  | symbol (text : String)
  | finish
  | stray
  deriving Inhabited, BEq, Repr

def isQuoteChar (c : Char) : Bool := c == '"' || c == Char.ofNat 39 || c == Char.ofNat 96

def isPrefixLetter (c : Char) : Bool :=
  c == 'f' || c == 'F' || c == 'r' || c == 'R' || c == 'b' || c == 'B' || c == 'u' || c == 'U'

/-- Reads a string opening at `i`: any run of prefix letters, then a quote, three of them for a
triple-quoted literal. Answers the opening and the index after it. -/
def readOpening (cs : Array Char) (i : Nat) : Option (Quote × Nat) :=
  let j := (advanceWhile cs isPrefixLetter ⟨i, 0, 0⟩).index
  let pre := (cs.extract i j).toList
  match cs[j]? with
  | some q =>
    if isQuoteChar q then
      let triple := q != Char.ofNat 96 && charIs cs (j + 1) (· == q) && charIs cs (j + 2) (· == q)
      let quote : Quote :=
        { format := pre.any (fun c => c == 'f' || c == 'F')
          raw := pre.any (fun c => c == 'r' || c == 'R')
          bytes := pre.any (fun c => c == 'b' || c == 'B')
          closer := q, triple := triple }
      some (quote, if triple then j + 3 else j + 1)
    else none
  | none => none

def isDigitChar (c : Char) : Bool := '0' ≤ c && c ≤ '9'

def isHexChar (c : Char) : Bool :=
  isDigitChar c || ('a' ≤ c && c ≤ 'f') || ('A' ≤ c && c ≤ 'F')

def decimalEnd (cs : Array Char) (i : Nat) : Nat :=
  go (cs.size + 1) i
where
  go : Nat → Nat → Nat
    | 0, i => i
    | n + 1, i =>
      if charIs cs i isDigitChar then
        let j := (advanceWhile cs isDigitChar ⟨i, 0, 0⟩).index
        go n (if charIs cs j (· == '_') then j + 1 else j)
      else i

def prefixedEnd (cs : Array Char) (ok : Char → Bool) (i : Nat) : Nat :=
  go (cs.size + 1) i
where
  go : Nat → Nat → Nat
    | 0, i => i
    | n + 1, i =>
      let j := if charIs cs i (· == '_') then i + 1 else i
      if charIs cs j ok then go n (advanceWhile cs ok ⟨j, 0, 0⟩).index else i

def exponentEnd (cs : Array Char) (i : Nat) : Nat :=
  if charIs cs i (fun c => c == 'e' || c == 'E') then
    let j := if charIs cs (i + 1) (fun c => c == '+' || c == '-') then i + 2 else i + 1
    if charIs cs j isDigitChar then decimalEnd cs j else i
  else i

/-- The end of a number starting at `i` (a digit, or a point before a digit). Integers may end
in `l` or `L` (long) or `j` or `J` (imaginary), floats only in `j` or `J`. -/
def numberEnd (cs : Array Char) (i : Nat) : Nat :=
  let suffix (j : Nat) (ok : Char → Bool) := if charIs cs j ok then j + 1 else j
  let long (c : Char) := c == 'l' || c == 'L'
  let imaginary (c : Char) := c == 'j' || c == 'J'
  let longOrImag (c : Char) := long c || imaginary c
  let radix (marks : Char → Bool) (ok : Char → Bool) : Option Nat :=
    if charIs cs i (· == '0') && charIs cs (i + 1) marks then
      let e := prefixedEnd cs ok (i + 2)
      if e > i + 2 then some (suffix e long) else none
    else none
  let hex := radix (fun c => c == 'x' || c == 'X') isHexChar
  let oct := radix (fun c => c == 'o' || c == 'O') (fun c => '0' ≤ c && c ≤ '7')
  let bin := radix (fun c => c == 'b' || c == 'B') (fun c => c == '0' || c == '1')
  match hex <|> oct <|> bin with
  | some e => e
  | none =>
    let a := decimalEnd cs i
    if charIs cs a (· == '.') then
      let b := decimalEnd cs (a + 1)
      suffix (exponentEnd cs b) imaginary
    else
      let e := exponentEnd cs a
      if e > a then suffix e imaginary else suffix a longOrImag

/-- The symbols of the language, longest first so that the first match is the longest. -/
def symbols : List String :=
  ["**=", "//=", ">>=", "<<=", "...",
   "**", "//", ">>", "<<", "<=", ">=", "==", "!=", "<>", "->", ":=", "+=", "-=", "*=", "/=",
   "%=", "&=", "|=", "^=", "@=",
   "(", ")", "[", "]", "\x7b", "\x7d", ",", ":", ";", ".", "=", "+", "-", "*", "/", "%", "&", "|",
   "^", "~", "<", ">", "@"]

def textAt (cs : Array Char) (i : Nat) (s : String) : Bool :=
  (cs.extract i (i + s.length)).toList == s.toList

def readToken (cs : Array Char) (i : Nat) : Token × Nat :=
  match cs[i]? with
  | none => (.finish, i)
  | some c =>
    match readOpening cs i with
    | some (q, j) => (.opening q, j)
    | none =>
      if isIdentStart c then
        let j := (advanceWhile cs isIdentContinue ⟨i, 0, 0⟩).index
        (.word (String.ofList (cs.extract i j).toList), j)
      else if isDigitChar c || (c == '.' && charIs cs (i + 1) isDigitChar) then
        (.number, numberEnd cs i)
      else if c == '!' && charIs cs (i + 1) (fun d => 'a' ≤ d && d ≤ 'z') then
        (.symbol (String.ofList ['!', cs[i + 1]?.getD 'a']), i + 2)
      else
        match symbols.find? (textAt cs i) with
        | some s => (.symbol s, i + s.length)
        | none => (.stray, i)

/-- Characters skipped between tokens without taking part in measuring indentation: the ASCII
blanks (space, tab, line feed, vertical tab, form feed, carriage return), the byte order mark,
the word joiner and the zero width space. Other Unicode spaces are not blanks to the grammar. -/
def isOtherBlank (c : Char) : Bool :=
  let n := c.toNat
  (9 ≤ n && n ≤ 13) || n == 32 || n == 0xFEFF || n == 0x2060 || n == 0x200B

def commentEnd (cs : Array Char) (p : Place) : Place := advanceWhile cs (· != '\n') p

/-- What one measuring run from a place finds: whether a line ended before it stopped (the end of
the text counts), how deep the line it stopped in is indented, where it stopped, and how deep the
first comment line it passed was indented. -/
structure Measure where
  broke : Bool
  width : Nat
  stop : Place
  firstComment : Option Nat
  deriving Inhabited, Repr

/-- Measures from `p`. Comments on lines of their own are passed over; the run gives up without
a verdict at a comment on the line it started on and at a backslash that does not end a line. -/
def measure (cs : Array Char) (p : Place) : Option Measure :=
  go (cs.size + 1) p false 0 none
where
  go : Nat → Place → Bool → Nat → Option Nat → Option Measure
    | 0, p, broke, width, first => some ⟨broke, width, p, first⟩
    | n + 1, p, broke, width, first =>
      match cs[p.index]? with
      | none => some ⟨true, 0, p, first⟩
      | some c =>
        if c == '\n' then go n (p.step c) true 0 first
        else if c == ' ' then go n (p.step c) broke (width + 1) first
        else if c == '\t' then go n (p.step c) broke (width + 8) first
        else if c == '\r' || c.toNat == 12 then go n (p.step c) broke 0 first
        else if c == '#' then
          if broke then go n (commentEnd cs p) broke 0 (first <|> some width) else none
        else if c == '\\' then
          let q := p.step c
          let q := if charIs cs q.index (· == '\r') then q.step '\r' else q
          match cs[q.index]? with
          | some '\n' => go n (q.step '\n') broke width first
          | some _ => none
          | none => go n q broke width first
        else some ⟨broke, width, p, first⟩

/-- What the token reader finds after skipping blanks: a comment or a line join ending at a
place, after which measuring starts again, or the place where a token starts. -/
inductive Skipped where
  | comment (next : Place)
  | join (next : Place)
  | token (start : Place)
  deriving Inhabited, Repr

/-- Skips blanks from `p` and answers the next comment, line join or token. A line join is a
backslash before a line end or before a NUL character; a backslash at the end of the text joins
nothing and is left as a token. -/
def skipBlanks (cs : Array Char) (p : Place) : Skipped :=
  let q := advanceWhile cs isOtherBlank p
  match cs[q.index]? with
  | some '#' => .comment (commentEnd cs q)
  | some '\\' =>
    let r := q.step '\\'
    let r := if charIs cs r.index (· == '\r') then r.step '\r' else r
    match cs[r.index]? with
    | some '\n' => .join (r.step '\n')
    | some c => if c.toNat == 0 then .join (r.step c) else .token q
    | none => .token q
  | _ => .token q

end Linewise.Python
