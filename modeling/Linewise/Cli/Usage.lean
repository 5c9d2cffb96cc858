import Linewise.Cli.Spec
import Linewise.Text.Blank
/-! Usage lines, help pages and the layout of usage errors. The full usage line shows
`[OPTIONS]`, the required options, the positional arguments and `<COMMAND>`; the line for given
arguments shows only those and the required ones. The short help page pads names into a column,
the long one puts descriptions on the next line. -/
namespace Linewise.Cli

def spaces (n : Nat) : String := String.ofList (List.replicate n ' ')

def Command.showsOptionsTag (c : Command) : Bool :=
  c.options.any fun a => a.long != some "help" && a.long != some "version" && !a.required

def distinctTexts (xs : List String) : List String :=
  xs.foldl (fun acc x => if acc.contains x then acc else acc ++ [x]) []

/-- The usage items for the arguments `ids` together with the required ones: options first,
then positional arguments by place, each shown as required. -/
def Command.requiredItems (c : Command) (ids : List String) : List String :=
  let args := c.requiredArgs ++ ids.filterMap c.byId
  let opts := distinctTexts ((args.filter fun a => !a.isPositional).map fun a => a.written true)
  let places := (args.filter Arg.isPositional).map fun a => a.index.getD 0
  let pos := c.positionals.filter fun a => places.contains (a.index.getD 0)
  opts ++ pos.map fun a => a.written true

def Command.fullUsage (c : Command) : String :=
  let opts := distinctTexts ((c.requiredArgs.filter fun a => !a.isPositional).map fun a => a.written true)
  let pos := c.positionals.map fun a => a.written a.required
  let parts := [c.usageName] ++ (if c.showsOptionsTag then ["[OPTIONS]"] else []) ++ opts ++ pos ++
    (if c.needsCommand then ["<COMMAND>"] else [])
  " ".intercalate parts

/-- The usage line for the given arguments `used`; the full one when none was given. -/
def Command.usageFor (c : Command) (used : List String) : String :=
  if used.isEmpty then c.fullUsage
  else
    " ".intercalate ([c.usageName] ++ c.requiredItems used ++
      (if c.needsCommand then ["<COMMAND>"] else []))

def Arg.notes (a : Arg) : String :=
  match a.defaultValue with
  | some v => if a.takesValues then "[default: " ++ v ++ "]" else ""
  | none => ""

def Arg.describe (a : Arg) (long : Bool) : String :=
  let text := if long then a.longHelp.getD a.help else a.help
  let notes := a.notes
  if notes.isEmpty then text
  else if text.isEmpty then notes
  else text ++ (if long then "\n\n" else " ") ++ notes

def Arg.nameColumn (a : Arg) : String :=
  let short := match a.short with
    | some s => "-" ++ s.toString
    | none => if a.long.isSome then "    " else ""
  let long := match a.long with
    | some l => (if a.short.isSome then ", " else "") ++ "--" ++ l
    | none => ""
  short ++ long ++ a.suffix a.required

/-- Whether an argument counts when the name column's width is measured. -/
def Arg.measured (a : Arg) : Bool := a.takesValues || a.long.isSome || a.short.isNone

def argumentLines (args : List Arg) (long : Bool) : String :=
  let longest := args.foldl (fun m a => if a.measured then max m a.display.length else m) 2
  let line (a : Arg) : String :=
    let head := "  " ++ a.nameColumn
    let text := a.describe long
    if long then head ++ "\n" ++ spaces 10 ++ text.replace "\n" ("\n" ++ spaces 10)
    else
      let pad := if a.isPositional then longest + 2 - a.display.length
        else if a.long.isSome then longest + 2 - a.display.length
        else longest + 6 - a.display.length
      head ++ spaces pad ++ text
  (if long then "\n\n" else "\n").intercalate (args.map line)

def commandLines (cs : List Command) : String :=
  let longest := cs.foldl (fun m c => max m c.name.length) 2
  "\n".intercalate (cs.map fun c => "  " ++ c.name ++ spaces (longest + 2 - c.name.length) ++ c.about)

def listingOrder (args : List Arg) : List Arg :=
  args.mergeSort fun a b => a.order < b.order || (a.order == b.order && a.sortKey ≤ b.sortKey)

/-- The help page of a command with the commands below it; `long` asks for the long page, which
is shown only when the command has one. -/
def helpPage (c : Command) (below : List Command) (long : Bool) : String :=
  let long := long && c.hasLongHelp
  let about := if long then c.longAbout.getD c.about else c.about
  let sections :=
    (if below.isEmpty then [] else ["Commands:\n" ++ commandLines below]) ++
    (if c.positionals.isEmpty then [] else ["Arguments:\n" ++ argumentLines c.positionals long]) ++
    (if c.options.isEmpty then [] else ["Options:\n" ++ argumentLines (listingOrder c.options) long])
  let body := about ++ "\n\nUsage: " ++ c.fullUsage ++
    (if sections.isEmpty then "" else "\n\n" ++ "\n\n".intercalate sections)
  Text.trimEnd body ++ "\n"

/-- A usage error: what went wrong, the similar names worth suggesting (with the word naming
their kind), further tips, the usage line to show, and whether to point to `--help`. -/
structure Complaint where
  message : String
  similar : Option (String × List String) := none
  tips : List String := []
  usage : Option String := none
  helpHint : Bool := true
  deriving Repr, Inhabited

def similarText (kind : String) (names : List String) : String :=
  let quoted := ", ".intercalate (names.map fun n => "'" ++ n ++ "'")
  if names.length == 1 then "  tip: a similar " ++ kind ++ " exists: " ++ quoted
  else "  tip: some similar " ++ kind ++ "s exist: " ++ quoted

def Complaint.text (c : Complaint) : String :=
  let similar := match c.similar with
    | some (kind, names) => "\n\n" ++ similarText kind names
    | none => ""
  let tips :=
    if c.tips.isEmpty then ""
    else (if c.similar.isSome then "" else "\n") ++ String.join (c.tips.map fun t => "\n  tip: " ++ t)
  let usage := match c.usage with
    | some u => "\n\nUsage: " ++ u
    | none => ""
  let hint := if c.helpHint then "\n\nFor more information, try '--help'.\n" else "\n"
  "error: " ++ c.message ++ similar ++ tips ++ usage ++ hint

end Linewise.Cli
