import Linewise.Python.Reader
/-! Expressions of the Python recognizer. Operators combine primaries freely, a word is a keyword
only where the grammar takes it, and strings are read character by character, formatted ones
with their replacement fields. Each step is told what may follow it and takes fuel bounding the
depth; the shape of an expression records what an assignment target needs. -/
namespace Linewise.Python

/-- What an expression looks like to an assignment: a name, an attribute, a subscript, a starred
target, a bracketed group of items, or anything else. -/
inductive Shape where
  | name
  | attribute
  | subscript
  | star (inner : Shape)
  | group (items : List Shape)
  | other
  deriving Inhabited, Repr

def Shape.isPlain : Shape → Bool
  | .name | .attribute | .subscript => true
  | _ => false

mutual
/-- Whether a shape can be assigned to: plain targets, starred plain targets, and groups of
targets. -/
def Shape.isTarget : Shape → Bool
  | .name | .attribute | .subscript => true
  | .star s => s.isPlain
  | .group items => Shape.allTargets items
  | .other => false

def Shape.allTargets : List Shape → Bool
  | [] => true
  | s :: rest => s.isTarget && Shape.allTargets rest
end

def binaryOperators : List String :=
  ["+", "-", "*", "@", "/", "%", "//", "**", "|", "&", "^", "<<", ">>"]

def comparisonSymbols : List String := ["<", "<=", "==", "!=", ">=", ">", "<>"]

/-- Words that are keywords wherever an expression may start, so they cannot name an argument. -/
def expressionKeywords : List String := ["lambda", "not", "True", "False", "None"]

def Item.isSymbolIn (it : Item) (ss : List String) : Bool := ss.any it.isSymbol

def Item.startsClause (it : Item) : Bool := it.isWord "for" || it.isWord "async"

def stepChars (k : Nat) : Py Unit := modify fun r => { r with cursor := advanceBy r.text k r.cursor }

def charsAre (cs : Array Char) (i : Nat) (p : Char → Bool) : Nat → Bool
  | 0 => true
  | k + 1 => charIs cs i p && charsAre cs (i + 1) p k

/-- The length of an escape sequence at index `i` (a backslash): a Unicode, hexadecimal, octal,
line-end, single-character or named escape, or the lone backslash when none of these follows. -/
def escapeLength (cs : Array Char) (i : Nat) : Nat :=
  match cs[i + 1]? with
  | some 'u' => if charsAre cs (i + 2) isHexChar 4 then 6 else 1
  | some 'U' => if charsAre cs (i + 2) isHexChar 8 then 10 else 1
  | some 'x' => if charsAre cs (i + 2) isHexChar 2 then 4 else 1
  | some '\r' => if charIs cs (i + 2) (· == '\n') then 3 else 1
  | some '\n' => 2
  | some 'N' =>
    if charIs cs (i + 2) (· == '{') && charIs cs (i + 3) (· != '}') then
      let close := (advanceWhile cs (· != '}') ⟨i + 3, 0, 0⟩).index
      if close < cs.size then close + 1 - i else 1
    else 1
  | some c =>
    if isDigitChar c then
      if charIs cs (i + 2) isDigitChar then (if charIs cs (i + 3) isDigitChar then 4 else 3) else 2
    else if "\"abfrntv\\".toList.contains c || c == Char.ofNat 39 then 2
    else 1
  | none => 1

/-- Moves past a backslash inside a string. In raw strings the backslash, an escaped quote or
backslash after it, and a line end after that are text, and the run of text goes on as it was;
in byte strings `\N`, `\u` and `\U` are text together with the character after them, whatever
it is, and the run of text is then non-empty; elsewhere a whole escape sequence is read and a
new run starts after it. Answers whether the run of text is non-empty, given whether it was. -/
def escapeStep (q : Quote) (seen : Bool) : Py Bool := do
  let r ← get
  let cs := r.text
  let i := r.cursor.index
  if q.raw then
    let first := if charIs cs (i + 1) (fun c => c == q.closer || c == '\\') then 2 else 1
    let j := i + first
    let lineEnd :=
      if charIs cs j (· == '\r') then (if charIs cs (j + 1) (· == '\n') then 2 else 1)
      else if charIs cs j (· == '\n') then 1 else 0
    stepChars (first + lineEnd)
    pure seen
  else if q.bytes && charIs cs (i + 1) (fun c => c == 'N' || c == 'u' || c == 'U') then
    stepChars 3
    pure true
  else
    stepChars (escapeLength cs i)
    pure false

def closeString : Py Unit := modify fun r => { r with inFormat := false, lastEnd := r.cursor }

def wordAfter (f : Follow) (s : String) : Py Bool := do
  let it ← peekAfter f
  if it.isWord s then take it; pure true else pure false

mutual

/-- An expression; `f` tells whether the statement may end after it. -/
def expression : Nat → Follow → Py Shape
  | 0, _ => failure
  | n + 1, f => do
    let s ← operand n f
    expressionTail n f s

/-- The tails of an expression: `and`, `or`, a conditional, an alias or a binding. A conditional
or alias that does not go through is left to the enclosing construct. -/
def expressionTail : Nat → Follow → Shape → Py Shape
  | 0, _, _ => failure
  | n + 1, f, s => do
    let it ← peekAfter f
    if it.isWord "and" || it.isWord "or" then
      take it
      let _ ← operand n f
      expressionTail n f .other
    else if it.isWord "if" then
      let ok ← attempt (do
        take it
        let _ ← expression n .more
        keyword "else"
        let _ ← expression n f
        pure ())
      if ok then expressionTail n f .other else pure s
    else if it.isWord "as" then
      let ok ← attempt (do take it; let _ ← expression n f; pure ())
      if ok then expressionTail n f .other else pure s
    else if it.isSymbol ":=" && s matches .name then
      take it
      let _ ← expression n f
      expressionTail n f .other
    else pure s

def operand : Nat → Follow → Py Shape
  | 0, _ => failure
  | n + 1, f => do
    let it ← peekIn
    if it.isWord "lambda" then
      take it
      lambdaRest n f
      pure .other
    else if it.isWord "not" then
      take it
      let _ ← operand n f
      pure .other
    else comparison n f

def comparison : Nat → Follow → Py Shape
  | 0, _ => failure
  | n + 1, f => do
    let s ← chain n f
    comparisonTail n f s

def comparisonTail : Nat → Follow → Shape → Py Shape
  | 0, _, _ => failure
  | n + 1, f, s => do
    let it ← peekAfter f
    if it.isSymbolIn comparisonSymbols || it.isWord "in" then
      take it
      let _ ← chain n f
      comparisonTail n f .other
    else if it.isWord "not" then
      take it
      keyword "in"
      let _ ← chain n f
      comparisonTail n f .other
    else if it.isWord "is" then
      take it
      let nt ← peekIn
      if nt.isWord "not" then take nt
      let _ ← chain n f
      comparisonTail n f .other
    else pure s

/-- Primaries with prefix signs and `await`, joined by binary operators. Since `await` may also
be a name, whatever could follow a name may follow it. -/
def chain : Nat → Follow → Py Shape
  | 0, _ => failure
  | n + 1, f => do
    let it ← peekIn
    let s ←
      if it.isSymbolIn ["+", "-", "~"] then do
        take it
        let _ ← chain n f
        pure Shape.other
      else if it.isWord "await" then
        (do
          take it
          allowClose f.close
          let _ ← chain n f
          pure Shape.other) <|> postfixed n f
      else postfixed n f
    chainTail n f s

def chainTail : Nat → Follow → Shape → Py Shape
  | 0, _, _ => failure
  | n + 1, f, s => do
    let it ← peekAfter f
    if it.isSymbolIn binaryOperators then
      take it
      let _ ← chain n f
      chainTail n f .other
    else pure s

def postfixed : Nat → Follow → Py Shape
  | 0, _ => failure
  | n + 1, f => do
    let s ← atom n f
    trailers n f s

def trailers : Nat → Follow → Shape → Py Shape
  | 0, _, _ => failure
  | n + 1, f, s => do
    let it ← peekAfter f
    if it.isSymbol "." then
      take it
      name
      allowClose f.close
      trailers n f .attribute
    else if it.isSymbol "[" then
      take it
      allowClose false
      subscriptItems n
      symbol "]"
      allowClose f.close
      trailers n f .subscript
    else if it.isSymbol "(" then
      take it
      arguments n true
      allowClose f.close
      trailers n f .other
    else pure s

def atom : Nat → Follow → Py Shape
  | 0, _ => failure
  | n + 1, f => do
    let it ← peekIn
    match it with
    | .token (.word w) _ _ =>
      take it
      allowClose f.close
      if w == "True" || w == "False" || w == "None" then pure .other else pure .name
    | .token .number _ _ =>
      take it
      allowClose f.close
      pure .other
    | .token (.opening _) _ _ =>
      strings n f
      pure .other
    | .token (.symbol s) _ _ =>
      if s == "..." then do
        take it
        allowClose f.close
        pure .other
      else if s == "(" then do
        take it
        let s ← parenthesized n
        allowClose f.close
        pure s
      else if s == "[" then do
        take it
        let s ← bracketed n
        allowClose f.close
        pure s
      else if s == "\x7b" then do
        take it
        braced n
        allowClose f.close
        pure .other
      else if s == "*" then do
        take it
        let inner ← postfixed n f
        if inner.isPlain then pure (.star inner) else failure
      else failure
    | _ => failure

def strings : Nat → Follow → Py Unit
  | 0, _ => failure
  | n + 1, f => do
    stringLiteral n
    allowClose f.close
    let it ← peekAfter f
    match it with
    | .token (.opening _) _ _ => strings n f
    | _ => pure ()

/-- One string literal, from its opening to its closing quotes. Opening a string marks whether
formatted text is being read, for a plain string inside a replacement field too. -/
def stringLiteral : Nat → Py Unit
  | 0 => failure
  | n + 1 => do
    let it ← peekIn
    match it with
    | .token (.opening q) _ _ =>
      take it
      modify fun r => { r with inFormat := q.format }
      stringBody n q false
    | _ => failure

/-- The characters of a string literal; `seen` tells whether the current run of text is
non-empty, since a single-quoted string may not break its line after text. A NUL character ends
the reading of text, and the literal with it. -/
def stringBody : Nat → Quote → Bool → Py Unit
  | 0, _, _ => failure
  | n + 1, q, seen => do
    let r ← get
    let i := r.cursor.index
    match r.text[i]? with
    | none => failure
    | some c =>
      if c.toNat == 0 then failure
      else if q.format && (c == '{' || c == '}') then
        if charIs r.text (i + 1) (· == c) then do
          stepChars 2
          stringBody n q false
        else if c == '{' then do
          interpolation n
          stringBody n q false
        else failure
      else if c == '\\' then do
        let seen ← escapeStep q seen
        stringBody n q seen
      else if c == q.closer then
        if !q.triple then do
          stepChars 1
          closeString
        else if charIs r.text (i + 1) (· == c) && charIs r.text (i + 2) (· == c) then do
          stepChars 3
          closeString
        else do
          stepChars 1
          stringBody n q true
      else if c == '\n' && seen && !q.triple then failure
      else do
        stepChars 1
        stringBody n q true

/-- A replacement field: an expression or `yield`, an optional `=`, an optional conversion and
an optional format specification, in braces. -/
def interpolation : Nat → Py Unit
  | 0 => failure
  | n + 1 => do
    symbol "\x7b"
    allowClose false
    let it ← peekIn
    if it.isWord "yield" then do
      take it
      allowClose true
      yieldRest n .closing
    else do
      let _ ← exprList n .closing
      pure ()
    if ← symbolIf "=" then allowClose true
    let ct ← peekIn
    match ct with
    | .token (.symbol s) _ _ =>
      if s.length == 2 && s.startsWith "!" && s != "!=" then do
        take ct
        allowClose true
    | _ => pure ()
    if ← symbolIf ":" then formatSpec n
    symbol "\x7d"

def formatSpec : Nat → Py Unit
  | 0 => failure
  | n + 1 => do
    let r ← get
    match r.text[r.cursor.index]? with
    | none => failure
    | some c =>
      if c == '}' then pure ()
      else if c == '{' then do
        interpolation n
        formatSpec n
      else do
        stepChars 1
        formatSpec n

def parenthesized : Nat → Py Shape
  | 0 => failure
  | n + 1 => do
    let it ← peekIn
    if it.isSymbol ")" then do
      take it
      pure (.group [])
    else do
      let (first, plain) ← element n
      let nt ← peekIn
      if nt.startsClause && plain then do
        comprehension n
        symbol ")"
        pure .other
      else if nt.isSymbol "," then do
        take nt
        let rest ← elementsRest n ")"
        pure (.group (first :: rest))
      else do
        symbol ")"
        pure (.group [first])

def bracketed : Nat → Py Shape
  | 0 => failure
  | n + 1 => do
    let it ← peekIn
    if it.isSymbol "]" then do
      take it
      pure (.group [])
    else do
      let (first, plain) ← element n
      let nt ← peekIn
      if nt.startsClause && plain then do
        comprehension n
        symbol "]"
        pure .other
      else if nt.isSymbol "," then do
        take nt
        let rest ← elementsRest n "]"
        pure (.group (first :: rest))
      else do
        symbol "]"
        pure (.group [first])

def braced : Nat → Py Unit
  | 0 => failure
  | n + 1 => do
    let it ← peekIn
    if it.isSymbol "\x7d" then take it
    else if it.isSymbol "," then do
      take it
      symbol "\x7d"
    else if it.isSymbol "**" then do
      take it
      let _ ← expression n .closing
      dictRest n
    else do
      let (_, plain) ← element n
      let nt ← peekIn
      if nt.isSymbol ":" && plain then do
        take nt
        let _ ← expression n .closing
        let mt ← peekIn
        if mt.startsClause then do
          comprehension n
          symbol "\x7d"
        else dictRest n
      else if nt.startsClause && plain then do
        comprehension n
        symbol "\x7d"
      else if nt.isSymbol "," then do
        take nt
        let _ ← elementsRest n "\x7d"
        pure ()
      else symbol "\x7d"

def dictRest : Nat → Py Unit
  | 0 => failure
  | n + 1 => do
    let it ← peekIn
    if it.isSymbol "," then do
      take it
      let nt ← peekIn
      if nt.isSymbol "\x7d" then take nt
      else if nt.isSymbol "**" then do
        take nt
        let _ ← expression n .closing
        dictRest n
      else do
        let _ ← expression n .more
        symbol ":"
        let _ ← expression n .closing
        dictRest n
    else symbol "\x7d"

/-- An element of a collection: a starred expression, `yield`, or an expression; answers its
shape and whether it is a plain expression. -/
def element : Nat → Py (Shape × Bool)
  | 0 => failure
  | n + 1 => do
    let it ← peekIn
    if it.isSymbol "*" then do
      take it
      let s ← expression n .closing
      pure (.star s, false)
    else if it.isWord "yield" then do
      take it
      allowClose true
      yieldRest n .closing
      pure (.other, false)
    else do
      let s ← expression n .closing
      pure (s, true)

def elementsRest : Nat → String → Py (List Shape)
  | 0, _ => failure
  | n + 1, close => do
    let it ← peekIn
    if it.isSymbol close then do
      take it
      pure []
    else do
      let (s, _) ← element n
      let nt ← peekIn
      if nt.isSymbol "," then do
        take nt
        let rest ← elementsRest n close
        pure (s :: rest)
      else do
        symbol close
        pure [s]

def comprehension : Nat → Py Unit
  | 0 => failure
  | n + 1 => do
    forClause n
    clauses n

def forClause : Nat → Py Unit
  | 0 => failure
  | n + 1 => do
    let it ← peekIn
    if it.isWord "async" then take it
    keyword "for"
    targets n
    keyword "in"
    iterables n

def clauses : Nat → Py Unit
  | 0 => failure
  | n + 1 => do
    let it ← peekIn
    if it.startsClause then do
      forClause n
      clauses n
    else if it.isWord "if" then do
      take it
      let _ ← expression n .closing
      clauses n
    else pure ()

def targets : Nat → Py Unit
  | 0 => failure
  | n + 1 => do
    let s ← chain n .more
    let it ← peekIn
    if it.isSymbol "," then do
      take it
      allowClose false
      let rest ← targetsRest n
      if Shape.allTargets (s :: rest) then pure () else failure
    else if s.isTarget then pure () else failure

def targetsRest : Nat → Py (List Shape)
  | 0 => failure
  | n + 1 => do
    let it ← peekIn
    if it.isWord "in" then pure []
    else do
      let s ← chain n .more
      let nt ← peekIn
      if nt.isSymbol "," then do
        take nt
        allowClose false
        let rest ← targetsRest n
        pure (s :: rest)
      else pure [s]

def iterables : Nat → Py Unit
  | 0 => failure
  | n + 1 => do
    let _ ← expression n .closing
    let it ← peekIn
    if it.isSymbol "," then do
      take it
      let _ ← attempt (iterables n)
      pure ()
    else pure ()

def subscriptItems : Nat → Py Unit
  | 0 => failure
  | n + 1 => do
    sliceItem n
    let it ← peekIn
    if it.isSymbol "," then do
      take it
      let nt ← peekIn
      if nt.isSymbol "]" then pure () else subscriptItems n
    else pure ()

def sliceItem : Nat → Py Unit
  | 0 => failure
  | n + 1 => do
    let it ← peekIn
    let lower ← if it.isSymbol ":" then pure false else do
      let _ ← expression n .closing
      pure true
    let ct ← peekIn
    if ct.isSymbol ":" then do
      take ct
      allowClose true
      let ut ← peekIn
      if !ut.isSymbolIn [":", "]", ","] then do
        let _ ← expression n .closing
        pure ()
      let st ← peekIn
      if st.isSymbol ":" then do
        take st
        allowClose true
        let vt ← peekIn
        if !vt.isSymbolIn ["]", ","] then do
          let _ ← expression n .closing
          pure ()
    else if !lower then failure

/-- The arguments of a call after `(`, up to `)`: a lone generator where `generator` allows one,
or arguments separated by commas with an optional trailing comma. -/
def arguments : Nat → Bool → Py Unit
  | 0, _ => failure
  | n + 1, generator => do
    let it ← peekIn
    if it.isSymbol ")" then take it
    else if it.isSymbol "," then do
      take it
      symbol ")"
    else do
      let plain ← argument n
      let nt ← peekIn
      if generator && nt.startsClause && plain then do
        comprehension n
        symbol ")"
      else argumentsRest n

def argumentsRest : Nat → Py Unit
  | 0 => failure
  | n + 1 => do
    let it ← peekIn
    if it.isSymbol "," then do
      take it
      let nt ← peekIn
      if nt.isSymbol ")" then take nt
      else do
        let _ ← argument n
        argumentsRest n
    else symbol ")"

/-- One argument: starred, double-starred, named, or plain; answers whether it is plain. -/
def argument : Nat → Py Bool
  | 0 => failure
  | n + 1 => do
    let it ← peekIn
    if it.isSymbol "*" || it.isSymbol "**" then do
      take it
      let _ ← expression n .closing
      pure false
    else
      let named : Bool := match it with
        | .token (.word w) _ _ => !expressionKeywords.contains w
        | _ => false
      let keywordArgument : Py Bool := do
        take it
        allowClose true
        symbol "="
        let _ ← expression n .closing
        pure false
      let plainArgument : Py Bool := do
        let _ ← expression n .closing
        pure true
      if named then keywordArgument <|> plainArgument else plainArgument

def lambdaRest : Nat → Follow → Py Unit
  | 0, _ => failure
  | n + 1, f => do
    let it ← peekIn
    if !it.isSymbol ":" then parameters n false
    symbol ":"
    let _ ← expression n f
    pure ()

/-- Parameters separated by commas with an optional trailing comma; `typed` tells a definition's
parameters, which may be annotated and are closed by a bracket, from a lambda's. -/
def parameters : Nat → Bool → Py Unit
  | 0, _ => failure
  | n + 1, typed => do
    parameter n typed
    let it ← peekIn
    if it.isSymbol "," then do
      take it
      allowClose typed
      let nt ← peekIn
      if nt.isSymbol ")" || nt.isSymbol ":" then pure () else parameters n typed
    else pure ()

/-- One parameter: a separator, a starred or double-starred target, a parenthesized pattern, or a
name, with an annotation where allowed and a default. -/
def parameter : Nat → Bool → Py Unit
  | 0, _ => failure
  | n + 1, typed => do
    let it ← peekIn
    let after : Follow := { close := typed }
    if it.isSymbol "/" then do
      take it
      allowClose typed
    else if it.isSymbol "*" || it.isSymbol "**" then do
      take it
      allowClose (typed && it.isSymbol "*")
      let nt ← peekIn
      if it.isSymbol "*" && nt.isSymbolIn [",", ")", ":"] then pure ()
      else do
        let s ← postfixed n after
        if !s.isPlain then failure
        if typed then
          if ← symbolIf ":" then typeExpr n .closing
    else if it.isSymbol "(" then do
      take it
      let s ← parenthesized n
      allowClose typed
      if !s.isTarget then failure
      if ← symbolIf "=" then
        let _ ← expression n after
        pure ()
    else if it.isAnyWord then do
      take it
      allowClose typed
      if typed then
        if ← symbolIf ":" then typeExpr n .closing
      if ← symbolIf "=" then
        let _ ← expression n after
        pure ()
    else failure

/-- Expressions separated by commas with an optional trailing comma; one expression without a
comma keeps its own shape. -/
def exprList : Nat → Follow → Py Shape
  | 0, _ => failure
  | n + 1, f => do
    let first ← expression n f
    let it ← peekAfter f
    if it.isSymbol "," then do
      take it
      let rest ← exprListRest n f
      pure (.group (first :: rest))
    else pure first

def exprListRest : Nat → Follow → Py (List Shape)
  | 0, _ => failure
  | n + 1, f => do
    let it ← peekAfter f
    if it.isLayout .newline then pure []
    else do
      let next ← (some <$> expression n f) <|> pure none
      match next with
      | none => pure []
      | some s =>
        let nt ← peekAfter f
        if nt.isSymbol "," then do
          take nt
          let rest ← exprListRest n f
          pure (s :: rest)
        else pure [s]

def yieldRest : Nat → Follow → Py Unit
  | 0, _ => failure
  | n + 1, f => do
    let it ← peekAfter f
    if it.isWord "from" then do
      take it
      let _ ← expression n f
      pure ()
    else if it.isLayout .newline then pure ()
    else do
      let _ ← attempt (do let _ ← exprList n f; pure ())
      pure ()

def typeExpr : Nat → Follow → Py Unit
  | 0, _ => failure
  | n + 1, f => do
    let it ← peekIn
    if it.isSymbol "*" || it.isSymbol "**" then do
      take it
      name
      allowClose f.close
    else do
      let _ ← expression n f
      pure ()

end

end Linewise.Python
