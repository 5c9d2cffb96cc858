import Linewise.Python.Expression
/-! Statements of the Python recognizer and the module as a whole. A suite is the rest of the
line, an indented block, or nothing when the next line is not indented further; `print`, `exec`,
`type`, `match` and `async` open statements where they can. Definitions are recorded with the row
of their first keyword and the end of their last token. -/
namespace Linewise.Python

def augmentedSymbols : List String :=
  ["+=", "-=", "*=", "/=", "@=", "//=", "%=", "**=", ">>=", "<<=", "&=", "^=", "|="]

/-- Whether a statement line may end here: a line end or a semicolon comes next. -/
def atStatementEnd : Py Unit := do
  let it ← peek { newline := true }
  if it.isLayout .newline || it.isSymbol ";" then pure () else failure

def markEmptySuite : Py Unit := modify fun r => { r with lastEnd := r.cursor }

/-- Takes `*` if it comes right after the word that ended at `p`, as in `except*`. -/
def starAfterWord (p : Place) : Py Bool := do
  let r ← get
  if charIs r.text p.index (· == '*') then
    symbol "*"
    pure true
  else pure false

/-- Takes a token that completes a pattern; inside brackets they may close after it. -/
def takeLast (it : Item) : Py Unit := do
  take it
  allowClose true

def complexTail : Py Unit := do
  let it ← peekIn
  if it.isSymbol "+" || it.isSymbol "-" then do
    let _ ← attempt (do
      take it
      let nt ← peekIn
      match nt with
      | .token .number _ _ => takeLast nt
      | _ => failure)
    pure ()

mutual

def statement : Nat → Py Unit
  | 0 => failure
  | n + 1 => do
    let it ← peekIn
    match it with
    | .token (.symbol "@") _ _ => decorated n
    | .token (.word w) start _ =>
      if w == "if" then do
        take it
        conditional n
      else if w == "for" then do
        take it
        forStatement n
      else if w == "while" then do
        take it
        let _ ← expression n .more
        symbol ":"
        suite n
        elseClause n
      else if w == "try" then do
        take it
        tryStatement n
      else if w == "with" then do
        take it
        withStatement n
      else if w == "def" then functionDefinition n start.row
      else if w == "class" then classDefinition n start.row
      else if w == "async" then asyncStatement n start.row <|> simpleStatements n
      else if w == "match" then matchStatement n <|> simpleStatements n
      else simpleStatements n
    | _ => simpleStatements n

def asyncStatement : Nat → Nat → Py Unit
  | 0, _ => failure
  | n + 1, row => do
    keyword "async"
    let it ← peekIn
    if it.isWord "def" then functionDefinition n row
    else if it.isWord "for" then do
      take it
      forStatement n
    else if it.isWord "with" then do
      take it
      withStatement n
    else failure

def simpleStatements : Nat → Py Unit
  | 0 => failure
  | n + 1 => do
    simpleStatement n
    let it ← peek { newline := true }
    if it.isLayout .newline then take it
    else if it.isSymbol ";" then do
      take it
      let nt ← peek { newline := true }
      if nt.isLayout .newline then take nt else simpleStatements n
    else failure

def simpleStatement : Nat → Py Unit
  | 0 => failure
  | n + 1 => do
    let it ← peekIn
    match it with
    | .token (.word w) _ _ =>
      if w == "import" then do
        take it
        importList n .lineEnd
      else if w == "from" then do
        take it
        fromImport n
      else if w == "assert" then do
        take it
        expressions n
      else if w == "return" then do
        take it
        optionalExpressions n
      else if w == "del" then do
        take it
        let _ ← exprList n .lineEnd
        pure ()
      else if w == "raise" then do
        take it
        raiseRest n
      else if w == "pass" || w == "break" || w == "continue" then take it
      else if w == "global" || w == "nonlocal" then do
        take it
        names n
      else if w == "print" then (printStatement n *> atStatementEnd) <|> expressionStatement n
      else if w == "exec" then (execStatement n *> atStatementEnd) <|> expressionStatement n
      else if w == "type" then (typeAlias n *> atStatementEnd) <|> expressionStatement n
      else expressionStatement n
    | _ => expressionStatement n

def expressions : Nat → Py Unit
  | 0 => failure
  | n + 1 => do
    let _ ← expression n .lineEnd
    let it ← peekAfter .lineEnd
    if it.isSymbol "," then do
      take it
      expressions n
    else pure ()

def optionalExpressions : Nat → Py Unit
  | 0 => failure
  | n + 1 => do
    let it ← peekAfter .lineEnd
    if it.isLayout .newline || it.isSymbol ";" then pure ()
    else do
      let _ ← exprList n .lineEnd
      pure ()

def raiseRest : Nat → Py Unit
  | 0 => failure
  | n + 1 => do
    let it ← peekAfter .lineEnd
    if it.isLayout .newline || it.isSymbol ";" then pure ()
    else do
      if !it.isWord "from" then do
        let _ ← exprList n .lineEnd
        pure ()
      if ← wordAfter .lineEnd "from" then do
        let _ ← expression n .lineEnd
        pure ()

def names : Nat → Py Unit
  | 0 => failure
  | n + 1 => do
    name
    let it ← peekAfter .lineEnd
    if it.isSymbol "," then do
      take it
      names n
    else pure ()

def dottedName : Nat → Follow → Py Unit
  | 0, _ => failure
  | n + 1, f => do
    name
    allowClose f.close
    let it ← peekAfter f
    if it.isSymbol "." then do
      take it
      dottedName n f
    else pure ()

def importList : Nat → Follow → Py Unit
  | 0, _ => failure
  | n + 1, f => do
    dottedName n f
    if ← wordAfter f "as" then do
      name
      allowClose f.close
    let it ← peekAfter f
    if it.isSymbol "," then do
      take it
      let nt ← peekAfter f
      if nt.isLayout .newline || nt.isSymbol ";" || nt.isSymbol ")" then pure ()
      else importList n f
    else pure ()

/-- Leading dots of a relative import; answers how many there were. -/
def importDots : Nat → Py Nat
  | 0 => failure
  | n + 1 => do
    let it ← peekIn
    if it.isSymbol "." || it.isSymbol "..." then do
      take it
      let k ← importDots n
      pure (k + 1)
    else pure 0

def fromImport : Nat → Py Unit
  | 0 => failure
  | n + 1 => do
    let dots ← importDots n
    let it ← peekIn
    if dots == 0 then dottedName n .more
    else if it.isAnyWord && !it.isWord "import" then dottedName n .more
    keyword "import"
    let nt ← peekIn
    if nt.isSymbol "*" then take nt
    else if nt.isSymbol "(" then do
      take nt
      allowClose false
      importList n .closing
      symbol ")"
    else importList n .lineEnd

/-- The statement form of `print`: an optional redirection and expressions. -/
def printStatement : Nat → Py Unit
  | 0 => failure
  | n + 1 => do
    keyword "print"
    let it ← peekIn
    if it.isSymbol ">>" then do
      take it
      let _ ← expression n .lineEnd
      printRest n
    else do
      let _ ← expression n .lineEnd
      printRest n

def printRest : Nat → Py Unit
  | 0 => failure
  | n + 1 => do
    let it ← peekAfter .lineEnd
    if it.isSymbol "," then do
      take it
      let nt ← peekAfter .lineEnd
      if nt.isLayout .newline || nt.isSymbol ";" then pure ()
      else do
        let _ ← expression n .lineEnd
        printRest n
    else pure ()

/-- The statement form of `exec`: a string or a name, and optionally `in` and expressions. -/
def execStatement : Nat → Py Unit
  | 0 => failure
  | n + 1 => do
    keyword "exec"
    let it ← peekIn
    match it with
    | .token (.opening _) _ _ => stringLiteral n
    | .token (.word _) _ _ => take it
    | _ => failure
    if ← wordAfter .lineEnd "in" then expressions n

def typeAlias : Nat → Py Unit
  | 0 => failure
  | n + 1 => do
    keyword "type"
    typeExpr n .more
    symbol "="
    typeExpr n .lineEnd

/-- An expression statement, an assignment, an annotated or an augmented assignment. -/
def expressionStatement : Nat → Py Unit
  | 0 => failure
  | n + 1 => do
    let it ← peekIn
    if it.isWord "yield" then do
      take it
      yieldRest n .lineEnd
    else do
      let s ← exprList n .lineEnd
      assignmentTail n s

def assignmentTail : Nat → Shape → Py Unit
  | 0, _ => failure
  | n + 1, s => do
    let it ← peekAfter .lineEnd
    if it.isSymbol "=" || it.isSymbolIn augmentedSymbols then do
      if !s.isTarget then failure
      take it
      rightSide n
    else if it.isSymbol ":" then do
      if !s.isTarget then failure
      take it
      typeExpr n .lineEnd
      let nt ← peekAfter .lineEnd
      if nt.isSymbol "=" then do
        take nt
        rightSide n
    else pure ()

def rightSide : Nat → Py Unit
  | 0 => failure
  | n + 1 => do
    let it ← peekIn
    if it.isWord "yield" then do
      take it
      yieldRest n .lineEnd
    else do
      let s ← exprList n .lineEnd
      assignmentTail n s

/-- A suite: an indented block, an empty suite, or simple statements on the header's line. -/
def suite : Nat → Py Unit
  | 0 => failure
  | n + 1 => do
    let it ← peek { newline := true, indent := true }
    if it.isLayout .indent then do
      take it
      blockBody n
    else if it.isLayout .newline then do
      take it
      markEmptySuite
    else simpleStatements n

def blockBody : Nat → Py Unit
  | 0 => failure
  | n + 1 => do
    let it ← peek { dedent := true }
    if it.isLayout .dedent then take it
    else do
      statement n
      blockBody n

def conditional : Nat → Py Unit
  | 0 => failure
  | n + 1 => do
    let _ ← expression n .more
    symbol ":"
    suite n
    let it ← peek { dedent := true }
    if it.isWord "elif" then do
      take it
      conditional n
    else elseClause n

def elseClause : Nat → Py Unit
  | 0 => failure
  | n + 1 => do
    let it ← peek { dedent := true }
    if it.isWord "else" then do
      take it
      symbol ":"
      suite n
    else pure ()

def finallyClause : Nat → Py Unit
  | 0 => failure
  | n + 1 => do
    let it ← peek { dedent := true }
    if it.isWord "finally" then do
      take it
      symbol ":"
      suite n
    else pure ()

def forStatement : Nat → Py Unit
  | 0 => failure
  | n + 1 => do
    targets n
    keyword "in"
    let _ ← exprList n .more
    symbol ":"
    suite n
    elseClause n

def withStatement : Nat → Py Unit
  | 0 => failure
  | n + 1 => do
    withItems n
    symbol ":"
    suite n

def withItems : Nat → Py Unit
  | 0 => failure
  | n + 1 => do
    let _ ← expression n .more
    let it ← peekIn
    if it.isSymbol "," then do
      take it
      let nt ← peekIn
      if nt.isSymbol ":" then pure () else withItems n
    else pure ()

/-- `try` after its keyword: the suite, then `except` clauses (all starred or none) with optional
`else` and `finally`, or `finally` alone. -/
def tryStatement : Nat → Py Unit
  | 0 => failure
  | n + 1 => do
    symbol ":"
    suite n
    let it ← peek { dedent := true }
    match it with
    | .token (.word "except") _ stop =>
      let r ← get
      let starred := charIs r.text stop.index (· == '*')
      handlers n starred
      elseClause n
      finallyClause n
    | .token (.word "finally") _ _ => finallyClause n
    | _ => failure

def handlers : Nat → Bool → Py Unit
  | 0, _ => failure
  | n + 1, starred => do
    let it ← peek { dedent := true }
    match it with
    | .token (.word "except") _ stop =>
      let r ← get
      if starred && !charIs r.text stop.index (· == '*') then pure ()
      else do
        take it
        if starred then do
          let _ ← starAfterWord stop
          let _ ← expression n .more
          pure ()
        else do
          let nt ← peekIn
          if !nt.isSymbol ":" then do
            let _ ← expression n .more
            if ← symbolIf "," then do
              let _ ← expression n .more
              pure ()
        symbol ":"
        suite n
        handlers n starred
    | _ => pure ()

/-- A function definition from `def`; `row` is the row of its first keyword. -/
def functionDefinition : Nat → Nat → Py Unit
  | 0, _ => failure
  | n + 1, row => do
    keyword "def"
    name
    let it ← peekIn
    if it.isSymbol "[" then do
      take it
      allowClose false
      typeParameters n
    symbol "("
    let pt ← peekIn
    if !pt.isSymbol ")" then parameters n true
    symbol ")"
    if ← symbolIf "->" then typeExpr n .more
    symbol ":"
    suite n
    record .function row

/-- A class definition from `class`; `row` is the row of its keyword. -/
def classDefinition : Nat → Nat → Py Unit
  | 0, _ => failure
  | n + 1, row => do
    keyword "class"
    name
    let it ← peekIn
    if it.isSymbol "[" then do
      take it
      allowClose false
      typeParameters n
    if ← symbolIf "(" then arguments n false
    symbol ":"
    suite n
    record .classDef row

def typeParameters : Nat → Py Unit
  | 0 => failure
  | n + 1 => do
    typeExpr n .closing
    if ← symbolIf ":" then typeExpr n .closing
    let it ← peekIn
    if it.isSymbol "," then do
      take it
      let nt ← peekIn
      if nt.isSymbol "]" then take nt else typeParameters n
    else symbol "]"

def decorated : Nat → Py Unit
  | 0 => failure
  | n + 1 => do
    symbol "@"
    let _ ← expression n .lineEnd
    lineEnd
    let it ← peekIn
    match it with
    | .token (.symbol "@") _ _ => decorated n
    | .token (.word "def") start _ => functionDefinition n start.row
    | .token (.word "class") start _ => classDefinition n start.row
    | .token (.word "async") start _ => do
      take it
      functionDefinition n start.row
    | _ => failure

def matchStatement : Nat → Py Unit
  | 0 => failure
  | n + 1 => do
    keyword "match"
    subjects n
    symbol ":"
    let it ← peek { newline := true, indent := true }
    if it.isLayout .indent then do
      take it
      cases n
    else if it.isLayout .newline then take it
    else failure

def subjects : Nat → Py Unit
  | 0 => failure
  | n + 1 => do
    let _ ← expression n .more
    let it ← peekIn
    if it.isSymbol "," then do
      take it
      let nt ← peekIn
      if nt.isSymbol ":" then pure () else subjects n
    else pure ()

def cases : Nat → Py Unit
  | 0 => failure
  | n + 1 => do
    let it ← peek { dedent := true }
    if it.isLayout .dedent then take it
    else if it.isWord "case" then do
      take it
      patterns n
      if ← wordAfter .more "if" then do
        let _ ← expression n .more
        pure ()
      symbol ":"
      suite n
      cases n
    else failure

def patterns : Nat → Py Unit
  | 0 => failure
  | n + 1 => do
    casePattern n
    let it ← peekIn
    if it.isSymbol "," then do
      take it
      let nt ← peekIn
      if nt.isSymbol ":" || nt.isWord "if" then pure () else patterns n
    else pure ()

def casePattern : Nat → Py Unit
  | 0 => failure
  | n + 1 => do
    let it ← peekIn
    let keywordPattern : Py Unit := do
      if !it.isAnyWord then failure
      takeLast it
      symbol "="
      simplePattern n
    keywordPattern <|> simplePattern n
    aliases n

def aliases : Nat → Py Unit
  | 0 => failure
  | n + 1 => do
    if ← wordAfter .more "as" then do
      name
      allowClose true
      aliases n

def simplePattern : Nat → Py Unit
  | 0 => failure
  | n + 1 => do
    patternAtom n
    if ← symbolIf "|" then simplePattern n

def patternAtom : Nat → Py Unit
  | 0 => failure
  | n + 1 => do
    let it ← peekIn
    match it with
    | .token (.symbol s) _ _ =>
      if s == "*" || s == "**" then do
        take it
        name
        allowClose true
      else if s == "[" then do
        take it
        patternItems n "]"
        allowClose true
      else if s == "(" then do
        take it
        patternItems n ")"
        allowClose true
      else if s == "\x7b" then do
        take it
        mappingPattern n
        allowClose true
      else if s == "-" then do
        take it
        let nt ← peekIn
        match nt with
        | .token .number _ _ => do
          takeLast nt
          complexTail
        | _ => failure
      else failure
    | .token .number _ _ => do
      takeLast it
      complexTail
    | .token (.opening _) _ _ => strings n .closing
    | .token (.word w) _ _ =>
      if w == "True" || w == "False" || w == "None" || w == "_" then takeLast it
      else do
        dottedName n .closing
        if ← symbolIf "(" then do
          patternItems n ")"
          allowClose true
    | _ => failure

def patternItems : Nat → String → Py Unit
  | 0, _ => failure
  | n + 1, close => do
    let it ← peekIn
    if it.isSymbol close then take it
    else do
      casePattern n
      let nt ← peekIn
      if nt.isSymbol "," then do
        take nt
        patternItems n close
      else symbol close

def mappingPattern : Nat → Py Unit
  | 0 => failure
  | n + 1 => do
    let it ← peekIn
    if it.isSymbol "\x7d" then take it
    else do
      if it.isSymbol "*" || it.isSymbol "**" then do
        take it
        name
        allowClose true
      else do
        simplePattern n
        symbol ":"
        casePattern n
      let nt ← peekIn
      if nt.isSymbol "," then do
        take nt
        mappingPattern n
      else symbol "\x7d"

/-- The statements of the module, up to the end of the text. -/
def moduleBody : Nat → Py Unit
  | 0 => failure
  | n + 1 => do
    let it ← peekIn
    match it with
    | .token .finish _ _ => pure ()
    | _ => do
      statement n
      moduleBody n

end

end Linewise.Python
