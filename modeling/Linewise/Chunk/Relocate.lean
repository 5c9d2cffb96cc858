import Linewise.Chunk.Basic
import Linewise.Code.Block
/-! Finding a chunk again in text that may have drifted and putting new text in place of its
target: by its exact context, by its signature (the enclosing block there is replaced), or by its
raw content, in that order. Several fixes are applied from the lowest chunk in the file up, so
that earlier fixes do not move later targets. -/
namespace Linewise.Chunk

open Code

inductive Strategy where
  | exactContext
  | signatureAnchor (blockStart blockEnd : Nat)
  | rawContent
  deriving DecidableEq, Repr, Inhabited

def Strategy.describe : Strategy → String
  | .exactContext => "ExactContext"
  | .signatureAnchor s e =>
    "SignatureAnchor \x7b block_start: " ++ Nat.repr s ++ ", block_end: " ++ Nat.repr e ++ " \x7d"
  | .rawContent => "RawContent"

structure Relocation where
  newContent : String
  strategy : Strategy
  deriving DecidableEq, Repr, Inhabited

structure NotFound where
  signature : String
  deriving DecidableEq, Repr, Inhabited

def NotFound.message (e : NotFound) : String :=
  "Could not find location to apply fix for: " ++ e.signature

def joinPresent (parts : List String) : String :=
  Text.joinLines (parts.filter (!·.isEmpty))

/-- Whether a window of text holds the chunk's context before or after (an empty context is
held by every window). -/
def contextNear (c : CodeChunk) (window : String) : Bool :=
  Text.contains window c.contextBefore || Text.contains window c.contextAfter

def tryExactContext (content : String) (c : CodeChunk) (core fixed : String) : Option String :=
  let pattern := joinPresent [c.contextBefore, core, c.contextAfter]
  if pattern.isEmpty || !Text.contains content pattern then none
  else some (Text.replaceFirst content pattern (joinPresent [c.contextBefore, fixed, c.contextAfter]))

/-- The lines from `context` before line `i` up to, but not including, `context` after it
(clipped to the text), joined by newlines. -/
def windowAt (lines : List String) (i context : Nat) : String :=
  Text.joinLines (slice lines (i - context) (min (i + context) lines.length))

def hasSignature (lines : List String) (c : CodeChunk) (i : Nat) : Bool :=
  Text.contains (lines[i]?.getD "") c.signature

/-- The first line holding the signature with saved context nearby. -/
def anchorLine (lines : List String) (c : CodeChunk) (context : Nat) : Option Nat :=
  (List.range lines.length).find? fun i =>
    hasSignature lines c i && contextNear c (windowAt lines i context)

/-- The signature replacement: new text, block start and block end. -/
def trySignatureAnchor (content : String) (c : CodeChunk) (fixed : String) (context : Nat) :
    Option (String × Nat × Nat) :=
  if c.signature.isEmpty then none
  else
    let lines := Text.lines content
    (anchorLine lines c context).map fun i =>
      let bs := enclosingBlockStart lines i
      let be := blockEndByIndentation lines bs
      let joined := Text.joinLines (lines.take bs ++ Text.lines fixed ++ lines.drop (be + 1))
      let text := if Text.endsWithNewline content && !joined.isEmpty then joined ++ "\n" else joined
      (text, bs, be)

/-- Puts `fixed` in place of the chunk's target in `content`. -/
def relocateChunk (content : String) (c : CodeChunk) (fixed : String) (opts : ChunkOptions) :
    Except NotFound Relocation :=
  let core := c.coreText
  match tryExactContext content c core fixed with
  | some t => .ok ⟨t, .exactContext⟩
  | none =>
    match trySignatureAnchor content c fixed opts.contextLines with
    | some (t, bs, be) => .ok ⟨t, .signatureAnchor bs be⟩
    | none =>
      if !core.isEmpty && Text.contains content core then .ok ⟨Text.replaceFirst content core fixed, .rawContent⟩
      else .error ⟨c.signature⟩

/-- The successor of a machine word, stopping at the largest one. -/
def wordSucc (n : Nat) : Nat := min (n + 1) (Nat.pow 2 64 - 1)

def relocateChunkLog (content : String) (c : CodeChunk) (fixed : String) (opts : ChunkOptions) :
    List LogEntry :=
  let core := c.coreText
  let sig := c.signature
  LogEntry.trace ("    Attempting exact context match for '" ++ sig ++ "'...") ::
  match tryExactContext content c core fixed with
  | some _ => []
  | none =>
    let lines := Text.lines content
    let anchor := if sig.isEmpty then none else anchorLine lines c opts.contextLines
    let upTo := match anchor with
      | some i => i
      | none => if sig.isEmpty then 0 else lines.length
    let skipped := ((List.range upTo).filter (hasSignature lines c)).map fun i =>
      LogEntry.trace ("    Signature at line " ++ Nat.repr (i + 1) ++ " has no saved context nearby.")
    LogEntry.trace ("    Attempting signature anchor for '" ++ sig ++ "'...") :: skipped ++
    match anchor with
    | some i =>
      let bs := enclosingBlockStart lines i
      let be := blockEndByIndentation lines bs
      [LogEntry.debug ("    Signature anchored at line " ++ Nat.repr (i + 1) ++ " (block " ++
        Nat.repr (bs + 1) ++ "-" ++ Nat.repr (be + 1) ++ ", recorded at " ++
        Nat.repr (wordSucc c.targetStart) ++ ").")]
    | none => [LogEntry.trace ("    Attempting raw content match for '" ++ sig ++ "'...")]

inductive FixStatus where
  | applied (s : Strategy)
  | failed (e : NotFound)
  deriving DecidableEq, Repr, Inhabited

/-- The text after fixes and what became of each, in the order the fixes were given. -/
structure Application where
  newContent : String
  results : List FixStatus
  deriving DecidableEq, Repr, Inhabited

def Application.allApplied (a : Application) : Bool :=
  a.results.all fun | .applied _ => true | .failed _ => false

def Application.failures (a : Application) : List (Nat × NotFound) :=
  a.results.zipIdx.filterMap fun
    | (.failed e, i) => some (i + 1, e)
    | (.applied _, _) => none

/-- Fix positions from the chunk starting lowest in the file up, ties in given order. -/
def fixOrder (fixes : List (CodeChunk × String)) : List (Nat × CodeChunk × String) :=
  (fixes.zipIdx.map fun (f, i) => (i, f)).mergeSort fun a b => b.2.1.startLine ≤ a.2.1.startLine

def applyOne (opts : ChunkOptions) (current : String) (f : CodeChunk × String) : String × FixStatus :=
  match relocateChunk current f.1 f.2 opts with
  | .ok r => (r.newContent, .applied r.strategy)
  | .error e => (current, .failed e)

/-- Applies fixes from the lowest chunk up. -/
def applyChunkFixes (content : String) (fixes : List (CodeChunk × String)) (opts : ChunkOptions) :
    Application :=
  let (text, done) := (fixOrder fixes).foldl (fun (acc : String × List (Nat × FixStatus)) (i, f) =>
    let (t, s) := applyOne opts acc.1 f
    (t, acc.2 ++ [(i, s)])) (content, [])
  ⟨text, ((done.mergeSort fun a b => a.1 ≤ b.1).map Prod.snd)⟩

def applyChunkFixesLog (content : String) (fixes : List (CodeChunk × String)) (opts : ChunkOptions) :
    List LogEntry :=
  ((fixOrder fixes).foldl (fun (acc : String × List LogEntry) (i, f) =>
    let c := f.1
    let (t, s) := applyOne opts acc.1 f
    let line := match s with
      | .applied st => LogEntry.info ("  Applied fix to " ++ c.signature ++ " (lines " ++
          Nat.repr (wordSucc c.startLine) ++ "-" ++ Nat.repr (wordSucc c.endLine) ++ ") via " ++ st.describe)
      | .failed e => LogEntry.warn ("  Failed to apply fix " ++ Nat.repr (i + 1) ++ ": " ++ e.message)
    (t, acc.2 ++ relocateChunkLog acc.1 c f.2 opts ++ [line])) (content, [])).2

end Linewise.Chunk
