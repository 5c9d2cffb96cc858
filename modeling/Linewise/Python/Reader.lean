import Linewise.Python.Source
/-! The reader the Python recognizer runs in: the text, the place, the indentation of the open
blocks, the open brackets and the definitions accepted so far. Line ends and indentation become
tokens only where the grammar can take them; a shallower line also closes a block where nothing
else can follow. Layout tokens take no room. -/
namespace Linewise.Python

inductive DefKind where
  | function
  | classDef
  deriving Inhabited, BEq, Repr

/-- A definition the recognizer accepted: its kind, the row of its first keyword, and where its
last token (comments aside) ends. -/
structure Found where
  kind : DefKind
  row : Nat
  last : Place
  deriving Inhabited, Repr

/-- The recognizer's state. `closer` tells whether the grammar could take a closing bracket as
the next token; `lineStart` whether a statement could start, which holds at the start of the
text and after a layout token; `levels` holds the indentation of the open blocks, innermost
first. -/
structure Reader where
  text : Array Char
  cursor : Place := {}
  lastEnd : Place := {}
  levels : List Nat := [0]
  depth : Nat := 0
  inFormat : Bool := false
  closer : Bool := false
  lineStart : Bool := true
  found : List Found := []
  deriving Inhabited

abbrev Py := StateT Reader Option

inductive Layout where
  | newline
  | indent
  | dedent
  deriving Inhabited, BEq, Repr

structure Wants where
  newline : Bool := false
  indent : Bool := false
  dedent : Bool := false
  deriving Inhabited, Repr

/-- What comes next: a layout token (found at a place, measuring a width, with the end of the
last line join passed on the way there, if any), or a token with the places where it starts and
ends. -/
inductive Item where
  | layout (l : Layout) (at_ : Place) (width : Nat) (joined : Option Place)
  | token (t : Token) (start stop : Place)
  deriving Inhabited, Repr

/-- What may come right after an expression: the end of its statement's line, and the closing
bracket of the group it stands in. -/
structure Follow where
  line : Bool := false
  close : Bool := false
  deriving Inhabited, Repr

def Follow.more : Follow := {}

def Follow.lineEnd : Follow := { line := true }

def Follow.closing : Follow := { close := true }

def Reader.closerOpen (r : Reader) : Bool := r.depth > 0 && r.closer

/-- The layout token a measuring run yields, if any. Where the grammar takes neither a dedent
nor a line end (so not where a statement could start), a comment line passed on the way counts
as shallow as it is indented. -/
def Reader.layoutFor (r : Reader) (w : Wants) (m : Measure) : Option Layout :=
  if !m.broke then none
  else
    let top := r.levels.headD 0
    let quoteNext := charIs r.text m.stop.index isQuoteChar
    let shallowest := match m.firstComment with
      | some c => min c m.width
      | none => m.width
    if w.indent && m.width > top then some .indent
    else if w.dedent && m.width < top && !r.inFormat then some .dedent
    else if !w.dedent && !w.newline && !r.lineStart && !quoteNext && !r.closerOpen &&
        shallowest < top && !r.inFormat then some .dedent
    else if w.newline then some .newline
    else none

/-- Looks for what comes next from the place `p`, passing comments and line joins; `joined` is
the end of the last line join passed so far. -/
def Reader.itemFrom (r : Reader) (w : Wants) : Nat → Place → Option Place → Option Item
  | 0, _, _ => none
  | n + 1, p, joined =>
    let layout := (measure r.text p).bind fun m => (r.layoutFor w m).map (·, m.width)
    match layout with
    | some (l, width) => some (.layout l p width joined)
    | none =>
      match skipBlanks r.text p with
      | .comment q => r.itemFrom w n q joined
      | .join q => r.itemFrom w n q (some q)
      | .token q =>
        let (t, j) := readToken r.text q.index
        some (.token t q (advanceBy r.text (j - q.index) q))

/-- What comes next; an unwanted dedent is an error. -/
def peek (w : Wants) : Py Item := do
  let r ← get
  match r.itemFrom w (r.text.size + 2) r.cursor none with
  | some (.layout .dedent p width joined) =>
    if w.dedent then pure (.layout .dedent p width joined) else failure
  | some it => pure it
  | none => failure

def peekIn : Py Item := peek {}

/-- What comes next after an operand: a line end is wanted when `f` allows the statement to end
here and no bracket is open. -/
def peekAfter (f : Follow) : Py Item := do
  let r ← get
  peek { newline := f.line && r.depth == 0 }

/-- Whether a closing bracket may come right after a token before the grammar says more: after
an opening bracket or a comma it may, after anything else it may not. -/
def closerAfter : Token → Bool
  | .symbol s => s == "(" || s == "[" || s == "\x7b" || s == ","
  | _ => false

def allowClose (b : Bool) : Py Unit := modify fun r => { r with closer := b }

def depthAfter (d : Nat) : Token → Nat
  | .symbol s =>
    if s == "(" || s == "[" || s == "\x7b" then d + 1
    else if s == ")" || s == "]" || s == "\x7d" then d - 1
    else d
  | _ => d

/-- Takes an item: a token moves reading past it, a layout token opens or closes a block. A
block's indentation is kept modulo 256, one byte per level. A line join passed before a layout
token lies inside the construct that token belongs to, so it extends what was read. -/
def take : Item → Py Unit
  | .token t _ stop => modify fun r =>
    { r with cursor := stop, lastEnd := stop, depth := depthAfter r.depth t, closer := closerAfter t,
             lineStart := false }
  | .layout l p width joined => modify fun r =>
    let r := { r with cursor := p, lastEnd := joined.getD r.lastEnd, lineStart := true }
    match l with
    | .indent => { r with levels := width % 256 :: r.levels }
    | .dedent => { r with levels := r.levels.tail }
    | .newline => r

def Item.isSymbol (it : Item) (s : String) : Bool :=
  match it with
  | .token (.symbol t) _ _ => t == s
  | _ => false

def Item.isWord (it : Item) (s : String) : Bool :=
  match it with
  | .token (.word t) _ _ => t == s
  | _ => false

def Item.isAnyWord (it : Item) : Bool :=
  match it with
  | .token (.word _) _ _ => true
  | _ => false

def Item.isLayout (it : Item) (l : Layout) : Bool :=
  match it with
  | .layout k _ _ _ => k == l
  | _ => false

def Item.start : Item → Place
  | .token _ p _ => p
  | .layout _ p _ _ => p

def symbol (s : String) : Py Unit := do
  let it ← peekIn
  if it.isSymbol s then take it else failure

def keyword (s : String) : Py Unit := do
  let it ← peekIn
  if it.isWord s then take it else failure

def name : Py Unit := do
  let it ← peekIn
  if it.isAnyWord then take it else failure

def symbolIf (s : String) : Py Bool := do
  let it ← peekIn
  if it.isSymbol s then take it; pure true else pure false

def lineEnd : Py Unit := do
  let it ← peek { newline := true }
  if it.isLayout .newline then take it else failure

def here : Py (Option Char) := do
  let r ← get
  pure r.text[r.cursor.index]?

def stepChar : Py Unit := modify fun r =>
  match r.text[r.cursor.index]? with
  | some c => { r with cursor := r.cursor.step c }
  | none => r

def record (kind : DefKind) (row : Nat) : Py Unit := modify fun r =>
  { r with found := ⟨kind, row, r.lastEnd⟩ :: r.found }

/-- Runs a step and answers whether it went through, keeping the state only if it did. -/
def attempt (p : Py Unit) : Py Bool := (p *> pure true) <|> pure false

end Linewise.Python
