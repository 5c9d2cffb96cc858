/-! Command-line grammars: options named by a short letter, a long name or both, and positional
arguments named by their place. The written forms here (`--name <NAME>`, `<FILE>`,
`[COMMAND]...`) are the ones usage lines, help pages and error messages show. -/
namespace Linewise.Cli

inductive Action where
  /-- Sets a switch; giving it twice is an error. -/
  | flag
  /-- Counts how often it is given. -/
  | count
  /-- Takes one value; giving it twice is an error. -/
  | single
  /-- Takes values, adding them to those given before. -/
  | many
  /-- Shows the command's help. -/
  | help
  /-- Shows the program's version. -/
  | version
  deriving DecidableEq, Repr, Inhabited

inductive ValueKind where
  /-- A path: any text but the empty one. -/
  | path
  /-- Any text. -/
  | text
  /-- An unsigned machine-sized number in decimal. -/
  | count
  deriving DecidableEq, Repr, Inhabited

/-- One argument of a command. -/
structure Arg where
  /-- How the argument is known inside the program. -/
  id : String
  short : Option Char := none
  long : Option String := none
  /-- The place among the positional arguments, from 1; `none` for options. -/
  index : Option Nat := none
  /-- The placeholder shown for its values. -/
  valueName : String := ""
  action : Action
  kind : ValueKind := .text
  required : Bool := false
  /-- The fewest values one occurrence takes. -/
  least : Nat := 0
  /-- The most values one occurrence takes; `none` when there is no bound. -/
  most : Option Nat := some 0
  help : String := ""
  longHelp : Option String := none
  /-- The value taken when the argument is not given, as it is shown in help. -/
  defaultValue : Option String := none
  /-- Where the argument is listed among the options: lower first, then by name. -/
  order : Nat := 999
  deriving Repr, Inhabited

namespace Arg

def isPositional (a : Arg) : Bool := a.index.isSome

def takesValues (a : Arg) : Bool := a.action == .single || a.action == .many

def severalValues (a : Arg) : Bool :=
  match a.most with
  | none => true
  | some m => a.least != m || 1 < m

def collects (a : Arg) : Bool := a.severalValues || a.action == .many

def acceptsMore (a : Arg) (n : Nat) : Bool :=
  match a.most with
  | none => true
  | some m => n < m

/-- The placeholder of the values, bracketed when a positional argument may be left out, and
followed by `...` when several values may be given. -/
def valueText (a : Arg) (required : Bool) : String :=
  let name :=
    if a.isPositional && (a.least == 0 || !required) then "[" ++ a.valueName ++ "]"
    else "<" ++ a.valueName ++ ">"
  let several := (match a.most with | none => true | some m => 1 < m) ||
    (a.isPositional && a.action == .many)
  if several then name ++ "..." else name

def suffix (a : Arg) (required : Bool) : String :=
  let gap := if a.takesValues && !a.isPositional then " " else ""
  if a.takesValues || a.isPositional then gap ++ a.valueText required
  else if a.action == .count then "..."
  else ""

def callName (a : Arg) : String :=
  match a.long, a.short with
  | some l, _ => "--" ++ l
  | none, some s => "-" ++ s.toString
  | none, none => ""

def written (a : Arg) (required : Bool) : String := a.callName ++ a.suffix required

def display (a : Arg) : String := a.written a.required

/-- The key options are listed by within one order: a short letter in lower case followed by
`0` for a lower-case letter and `1` otherwise, else the long name. -/
def sortKey (a : Arg) : String :=
  match a.short, a.long with
  | some s, _ => s.toLower.toString ++ (if s.isLower then "0" else "1")
  | none, some l => l
  | none, none => "\x7b" ++ a.id

end Arg

/-- A command: its name, what usage lines call it, what it is about, and its arguments in the
order they are looked up (its own, then the ones shared from above, then help and version). -/
structure Command where
  name : String
  /-- The name usage lines show: the program's, followed by the command's below it. -/
  usageName : String
  about : String
  longAbout : Option String := none
  args : List Arg
  /-- Whether a further command must follow this one. -/
  needsCommand : Bool := false
  deriving Repr, Inhabited

namespace Command

def byLong (c : Command) (l : String) : Option Arg :=
  c.args.find? fun a => a.long == some l

def byShort (c : Command) (s : Char) : Option Arg :=
  c.args.find? fun a => a.short == some s

def atIndex (c : Command) (i : Nat) : Option Arg :=
  c.args.find? fun a => a.index == some i

def byId (c : Command) (id : String) : Option Arg :=
  c.args.find? fun a => a.id == id

def positionals (c : Command) : List Arg :=
  (c.args.filter Arg.isPositional).mergeSort fun a b => a.index.getD 0 ≤ b.index.getD 0

def options (c : Command) : List Arg := c.args.filter fun a => !a.isPositional

def hasPositionals (c : Command) : Bool := c.args.any Arg.isPositional

def longNames (c : Command) : List String := c.args.filterMap Arg.long

def requiredArgs (c : Command) : List Arg := c.args.filter Arg.required

def hasHelpFlag (c : Command) : Bool := c.args.any fun a => a.action == .help

def hasLongHelp (c : Command) : Bool :=
  c.longAbout.isSome || c.args.any fun a => a.action != .help && a.longHelp.isSome

end Command

/-- The help option of a command; it points to the longer help when the command has one. -/
def helpArg (longer : Bool) : Arg :=
  { id := "help", short := some 'h', long := some "help", action := .help,
    help := if longer then "Print help (see more with '--help')" else "Print help",
    longHelp := if longer then some "Print help (see a summary with '-h')" else none }

def versionArg : Arg :=
  { id := "version", short := some 'V', long := some "version", action := .version,
    help := "Print version" }

/-- A program: its top command, the commands below it (the last being `help`), and the text
its version option shows. -/
structure Program where
  top : Command
  commands : List Command
  version : String
  deriving Repr, Inhabited

namespace Program

def command? (p : Program) (name : String) : Option Command :=
  p.commands.find? fun c => c.name == name

def commandNames (p : Program) : List String := p.commands.map Command.name

end Program

end Linewise.Cli
