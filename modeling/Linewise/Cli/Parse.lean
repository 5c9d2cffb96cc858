import Linewise.Cli.Usage
import Linewise.Text.Similarity
/-! Reading a command line against a program's grammar, word by word: a command's name hands the
rest to it, `--` makes the rest values, and long and short options take their values. Values wait
until the next argument before they are checked; at an unknown argument what waits is taken in
first, so that its message is the one shown. Each command then checks that nothing is missing. -/
namespace Linewise.Cli

open Linewise.Text

/-- How values reached an argument: after its short letter, after its long name, or by place. -/
inductive Via where
  | short
  | long
  | place
  deriving DecidableEq, Repr, Inhabited

structure Pending where
  id : String
  via : Via
  values : List String
  deriving Repr, Inhabited

/-- The arguments taken in so far, in the order they were first recorded, with their values,
and the values still waiting. A counter holds one value per occurrence. -/
structure Matches where
  entries : List (String × List String) := []
  pending : Option Pending := none
  deriving Repr, Inhabited

namespace Matches

def has (m : Matches) (id : String) : Bool := m.entries.any fun e => e.1 == id

def values (m : Matches) (id : String) : List String :=
  ((m.entries.find? fun e => e.1 == id).map Prod.snd).getD []

def ids (m : Matches) : List String := m.entries.map Prod.fst

def remove (m : Matches) (id : String) : Matches :=
  { m with entries := m.entries.filter fun e => e.1 != id }

def start (m : Matches) (id : String) : Matches :=
  if m.has id then m else { m with entries := m.entries ++ [(id, [])] }

def add (m : Matches) (id : String) (v : String) : Matches :=
  { m with entries := m.entries.map fun e => if e.1 == id then (e.1, e.2 ++ [v]) else e }

def wait (m : Matches) (id : String) (via : Via) (v : String) : Matches :=
  match m.pending with
  | some p => { m with pending := some { p with values := p.values ++ [v] } }
  | none => { m with pending := some ⟨id, via, [v]⟩ }

end Matches

/-- Why reading a command line stopped early. -/
inductive Stop where
  /-- A usage error, shown on standard error. -/
  | complaint (c : Complaint)
  /-- A help page or the version, shown on standard output. -/
  | show (text : String)
  /-- The help page, shown on standard error because nothing was given. -/
  | nothingGiven (text : String)
  deriving Repr, Inhabited

/-- Reads an unsigned machine-sized number in decimal, with an optional `+`. -/
def readCount (s : String) : Except String Nat :=
  let invalid := "invalid digit found in string"
  let rec go : List Char → Nat → Except String Nat
    | [], n => .ok n
    | c :: rest, n =>
      if c.isDigit then
        let n' := n * 10 + (c.toNat - 48)
        if n' < Nat.pow 2 64 then go rest n' else .error "number too large to fit in target type"
      else .error invalid
  match s.toList with
  | [] => .error "cannot parse integer from empty string"
  | ['+'] => .error invalid
  | ['-'] => .error invalid
  | '+' :: rest => go rest 0
  | cs => go cs 0

/-- A command being read: the program, the command, and the commands below it. -/
structure Level where
  program : Program
  command : Command
  below : List Command
  deriving Inhabited

namespace Level

def complain (l : Level) (message : String) (usage : Option String) (tips : List String := [])
    (similar : Option (String × List String) := none) : Stop :=
  .complaint { message, similar, tips, usage, helpHint := l.command.hasHelpFlag }

def noValue (l : Level) (a : Arg) : Stop :=
  l.complain ("a value is required for '" ++ a.display ++ "' but none was supplied") none

def checkValue (l : Level) (a : Arg) (v : String) : Option Stop :=
  match a.kind with
  | .text => none
  | .path => if v.isEmpty then some (l.noValue a) else none
  | .count =>
    match readCount v with
    | .ok _ => none
    | .error why =>
      some (l.complain ("invalid value '" ++ v ++ "' for '" ++ a.display ++ "': " ++ why) none)

def addValues (l : Level) (a : Arg) : List String → Matches → Matches × Option Stop
  | [], m => (m, none)
  | v :: vs, m =>
    match l.checkValue a v with
    | some st => (m, some st)
    | none => l.addValues a vs (m.add a.id v)

def givenTwice (l : Level) (a : Arg) : Stop :=
  l.complain ("the argument '" ++ a.display ++ "' cannot be used multiple times")
    (some l.command.fullUsage)

/-- Takes in the values given to an argument, as its action says. Answers the matches as they
stand afterwards, also when stopping. -/
def takeIn (l : Level) (a : Arg) (via : Via) (vals : List String) (m : Matches) :
    Matches × Option Stop :=
  if 0 < a.least && vals.isEmpty then (m, some (l.noValue a))
  else
    match a.action with
    | .help => (m, some (.show (helpPage l.command l.below (via != .short))))
    | .version => (m, some (.show (l.program.version ++ "\n")))
    | .flag =>
      if m.has a.id then (m.remove a.id, some (l.givenTwice a))
      else ((m.start a.id).add a.id "true", none)
    | .count =>
      let before := m.values a.id
      let m := m.remove a.id
      ({ m with entries := m.entries ++ [(a.id, before ++ [""])] }, none)
    | .single =>
      if m.has a.id then (m.remove a.id, some (l.givenTwice a))
      else l.addValues a vals (m.start a.id)
    | .many => l.addValues a vals (m.start a.id)

def settle (l : Level) (m : Matches) : Matches × Option Stop :=
  match m.pending with
  | none => (m, none)
  | some p =>
    let m := { m with pending := none }
    match l.command.byId p.id with
    | some a => l.takeIn a p.via p.values m
    | none => (m, none)

/-- Takes in what waits, then the values given to an argument. -/
def react (l : Level) (a : Arg) (via : Via) (vals : List String) (m : Matches) :
    Matches × Option Stop :=
  match l.settle m with
  | (m, some st) => (m, some st)
  | (m, none) => l.takeIn a via vals m

end Level

/-- What reading expects next: anything, more values of an option, or more values of a
positional argument. -/
inductive Mode where
  | ready
  | option (id : String)
  | positional (id : String)
  deriving DecidableEq, Repr, Inhabited

def Mode.isPositional : Mode → Bool
  | .positional _ => true
  | _ => false

/-- The state of reading one command's words. -/
structure Scan where
  taken : Matches := {}
  mode : Mode := .ready
  /-- Whose turn it is among the positional arguments, from 1. -/
  place : Nat := 1
  /-- Whether `--` was met. -/
  trailing : Bool := false
  deriving Inhabited

namespace Level

def proceed (s : Scan) (mode : Mode) : Matches × Option Stop → Except Stop Scan
  | (_, some st) => .error st
  | (m, none) => .ok { s with taken := m, mode }

def looksLikeOption (w : String) : Bool := w.startsWith "-" && w != "-" && w != "--"

def strayWord (l : Level) (w : String) (s : Scan) : Stop :=
  let c := l.command
  let usage := some c.fullUsage
  if s.trailing && l.below.any (fun b => b.name == w) then
    l.complain ("unexpected argument '" ++ w ++ "' found") usage
      ["subcommand '" ++ w ++ "' exists; to use it, remove the '--' before it"]
  else
    let asValue := !s.trailing && c.hasPositionals && looksLikeOption w
    let names := l.below.map Command.name
    let candidates := similarNames w names
    if !l.below.isEmpty && !candidates.isEmpty then
      l.complain ("unrecognized subcommand '" ++ w ++ "'") usage
        (if asValue then ["to pass '" ++ w ++ "' as a value, use '" ++ c.usageName ++ " -- " ++ w ++ "'"]
          else [])
        (some ("subcommand", candidates))
    else if !l.below.isEmpty && !c.hasPositionals then
      l.complain ("unrecognized subcommand '" ++ w ++ "'") usage
    else
      l.complain ("unexpected argument '" ++ w ++ "' found") usage
        (if asValue then ["to pass '" ++ w ++ "' as a value, use '-- " ++ w ++ "'"] else [])

def placeValue (l : Level) (w : String) (s : Scan) : Except Stop Scan :=
  match l.command.atIndex s.place with
  | some a => do
    let waiting := s.taken.pending.map Pending.id
    let m ← if waiting != some a.id || !a.severalValues then
        match l.settle s.taken with
        | (_, some st) => .error st
        | (m, none) => .ok m
      else .ok s.taken
    let m := m.wait a.id .place w
    if a.collects then .ok { s with taken := m, mode := .positional a.id }
    else .ok { s with taken := m, mode := .ready, place := s.place + 1 }
  | none =>
    let (m, _) := l.settle s.taken
    .error (l.strayWord w { s with taken := m })

def optionValue (l : Level) (id : String) (w : String) (s : Scan) : Except Stop Scan :=
  let m := s.taken.wait id .long w
  let held := (m.pending.map fun p => p.values.length).getD 0
  let more := match l.command.byId id with
    | some a => a.acceptsMore held
    | none => false
  .ok { s with taken := m, mode := if more then .option id else .ready }

def optionWithValue (l : Level) (a : Arg) (via : Via) (attached : Option String) (s : Scan) :
    Except Stop Scan :=
  match attached with
  | some v => proceed s .ready (l.react a via [v] s.taken)
  | none =>
    match l.settle s.taken with
    | (_, some st) => .error st
    | (m, none) => .ok { s with taken := { m with pending := some ⟨a.id, via, []⟩ }, mode := .option a.id }

/-- The similar long name of a command below, preferring the command named earliest in the
rest of the line. -/
def similarBelow (l : Level) (name : String) (rest : List String) : Option (String × String) :=
  let scored := l.below.filterMap fun b =>
    match (similarNames name b.longNames).getLast?, rest.idxOf? b.name with
    | some cand, some score => some (score, cand, b.name)
    | _, _ => none
  let best := scored.foldl (fun acc x =>
    match acc with
    | some y => if x.1 < y.1 then some x else some y
    | none => some x) none
  best.map fun x => x.2

def unknownLong (l : Level) (name : String) (rest : List String) (s : Scan) : Stop :=
  let c := l.command
  let (m, _) := l.settle s.taken
  let own := (similarNames name c.longNames).getLast?
  let other := if own.isNone then l.similarBelow name rest else none
  let m := match own.bind c.byLong with
    | some a => m.start a.id
    | none => m
  let arg := "--" ++ name
  let asValue := own.isNone && other.isNone && !s.trailing && c.hasPositionals
  let tips := (if asValue then ["to pass '" ++ arg ++ "' as a value, use '-- " ++ arg ++ "'"] else []) ++
    (match other with
     | some (cand, cmd) => ["'" ++ cmd ++ " --" ++ cand ++ "' exists"]
     | none => [])
  l.complain ("unexpected argument '" ++ arg ++ "' found") (some (c.usageFor m.ids)) tips
    (own.map fun o => ("argument", ["--" ++ o]))

def longWord (l : Level) (body : String) (rest : List String) (s : Scan) : Except Stop Scan :=
  let (name, attached) := match body.splitOn "=" with
    | [n] => (n, none)
    | n :: vs => (n, some ("=".intercalate vs))
    | [] => (body, none)
  match l.command.byLong name with
  | some a =>
    if a.takesValues then l.optionWithValue a .long attached s
    else
      match attached with
      | some v =>
        let used := (s.taken.ids.filter fun id =>
          !((l.command.byId id).map Arg.required).getD false) ++ [a.id]
        .error (l.complain ("unexpected value '" ++ v ++ "' for '" ++ a.display ++
          "' found; no more were expected") (some (l.command.usageFor used)))
      | none => proceed s .ready (l.react a .long [] s.taken)
  | none => .error (l.unknownLong name rest s)

def shortWord (l : Level) : List Char → Scan → Except Stop Scan
  | [], s => .ok s
  | ch :: more, s =>
    match l.command.byShort ch with
    | some a =>
      if a.takesValues then
        let attached := match more with
          | [] => none
          | '=' :: v => some (String.ofList v)
          | v => some (String.ofList v)
        l.optionWithValue a .short attached s
      else
        match l.react a .short [] s.taken with
        | (_, some st) => .error st
        | (m, none) => l.shortWord more { s with taken := m, mode := .ready }
    | none =>
      let arg := "-" ++ ch.toString
      let asValue := !s.trailing && l.command.hasPositionals
      .error (l.complain ("unexpected argument '" ++ arg ++ "' found") (some l.command.fullUsage)
        (if asValue then ["to pass '" ++ arg ++ "' as a value, use '-- " ++ arg ++ "'"] else []))

def word (l : Level) (w : String) (rest : List String) (s : Scan) : Except Stop Scan :=
  if s.trailing then l.placeValue w s
  else if w == "--" then .ok { s with trailing := true }
  else if w.startsWith "--" then l.longWord (w.drop 2).toString rest s
  else if w.startsWith "-" && w != "-" then l.shortWord (w.drop 1).toString.toList s
  else
    match s.mode with
    | .option id => l.optionValue id w s
    | _ => l.placeValue w s

def helpFor (l : Level) : List String → Command → List Command → Stop
  | [], c, below => .show (helpPage c below true)
  | n :: more, c, below =>
    match below.find? fun b => b.name == n with
    | some b => l.helpFor more b []
    | none =>
      .complaint
        { message := "unrecognized subcommand '" ++ n ++ "'", usage := some c.fullUsage,
          helpHint := c.hasHelpFlag }

/-- Reads the words of this command; answers the state at the end, and the command below with
the words left for it when one is named. -/
def scan (l : Level) : List String → Scan → Except Stop (Scan × Option (Command × List String))
  | [], s => .ok (s, none)
  | w :: rest, s =>
    let named := if s.trailing || s.mode.isPositional then none
      else l.below.find? fun b => b.name == w
    match named with
    | some b =>
      if b.name == "help" then .error (l.helpFor rest l.command l.below)
      else .ok (s, some (b, rest))
    | none =>
      match l.word w rest s with
      | .error st => .error st
      | .ok s => l.scan rest s

/-- Checks a command once its words are read: an option left without values, a missing
command below, and missing required arguments. -/
def check (l : Level) (s : Scan) (m : Matches) (hasBelow : Bool) : Option Stop :=
  let c := l.command
  let emptyOption := match s.mode with
    | .option id =>
      match c.byId id with
      | some a => if (m.values id).isEmpty && a.least != 0 then some (l.noValue a) else none
      | none => none
    | _ => none
  match emptyOption with
  | some st => some st
  | none =>
    if !hasBelow && c.needsCommand then
      if m.entries.isEmpty then some (.nothingGiven (helpPage c l.below false))
      else
        some (l.complain ("'" ++ c.usageName ++ "' requires a subcommand but one was not provided" ++
          "\n  [subcommands: " ++ ", ".intercalate (l.below.map Command.name) ++ "]")
          (some c.fullUsage))
    else
      let missing := c.requiredArgs.filter fun a => !m.has a.id
      if missing.isEmpty then none
      else
        let opts := (missing.filter fun a => !a.isPositional).map fun a => a.written true
        let pos := (c.positionals.filter fun a => missing.any fun b => b.id == a.id).map fun a => a.written true
        some (l.complain ("the following required arguments were not provided:" ++
          String.join ((distinctTexts opts ++ pos).map fun t => "\n  " ++ t))
          (some (c.usageFor (m.ids ++ missing.map Arg.id))))

def finish (l : Level) (s : Scan) (hasBelow : Bool) : Except Stop Matches :=
  match l.settle s.taken with
  | (_, some st) => .error st
  | (m, none) =>
    match l.check s m hasBelow with
    | some st => .error st
    | none => .ok m

end Level

/-- A command line as read: the matches of the top command, and the command below with its
matches. -/
structure Parsed where
  top : Matches
  below : Option (Command × Matches)
  deriving Inhabited

/-- Reads a command line. -/
def parseLine (p : Program) (words : List String) : Except Stop Parsed := do
  let top : Level := ⟨p, p.top, p.commands⟩
  let (s, named) ← top.scan words {}
  match named with
  | none =>
    let m ← top.finish s false
    pure ⟨m, none⟩
  | some (c, rest) =>
    let sub : Level := ⟨p, c, []⟩
    let (s', _) ← sub.scan rest {}
    let m' ← sub.finish s' false
    let m ← top.finish s true
    pure ⟨m, some (c, m')⟩

end Linewise.Cli
