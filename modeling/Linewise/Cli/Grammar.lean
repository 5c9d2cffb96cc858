import Linewise.Cli.Parse
/-! The command line of `linepatch`: its commands and their arguments, and what a command line
that reads correctly asks for. The top command takes only `-v` (given several times for more
log detail), which every command below shares; the commands below are `diff`, `validate`,
`preview`, `chunks`, `relocate` and `help`. -/
namespace Linewise.Cli

def verboseArg : Arg :=
  { id := "verbose", short := some 'v', long := some "verbose", action := .count,
    help := "Increase logging verbosity. Can be used multiple times. -v for info, -vv for debug, -vvv for trace",
    order := 5 }

def pathArg (id name : String) (place : Nat) (help : String := "") : Arg :=
  { id, index := some place, valueName := name, action := .single, kind := .path,
    required := true, least := 1, most := some 1, help }

def textOption (id long name : String) (order : Nat) (help : String := "") : Arg :=
  { id, long := some long, valueName := name, action := .single, least := 1, most := some 1,
    help, order }

def switch (id long : String) (order : Nat) (help : String) (short : Option Char := none) : Arg :=
  { id, short, long := some long, action := .flag, help, order }

def contextArg (order : Nat) : Arg :=
  { id := "context_lines", long := some "context-lines", valueName := "CONTEXT_LINES",
    action := .single, kind := .count, least := 1, most := some 1, defaultValue := some "10",
    order }

/-- A command below the top one, sharing `-v` and having its own help option. -/
def subcommand (name about : String) (args : List Arg) : Command :=
  { name, usageName := "linepatch " ++ name, about, args := args ++ [verboseArg, helpArg false] }

def diffCommand : Command :=
  subcommand "diff" "Diff two versions of a file and print the patch as JSON"
    [pathArg "original" "ORIGINAL" 1, pathArg "edited" "EDITED" 2,
     textOption "name" "name" "NAME" 0 "The file name recorded in the edits. Defaults to ORIGINAL's file name",
     switch "plain" "plain" 1 "Use the plain differencer instead of the optimized one",
     switch "stats" "stats" 2 "Print patch statistics instead of the patch"]

def validateCommand : Command :=
  subcommand "validate" "Check a JSON patch against the original file"
    [pathArg "original" "ORIGINAL" 1, pathArg "patch" "PATCH" 2, textOption "name" "name" "NAME" 0]

def previewCommand : Command :=
  subcommand "preview" "Print the file as it would look after applying a JSON patch"
    [pathArg "original" "ORIGINAL" 1, pathArg "patch" "PATCH" 2, textOption "name" "name" "NAME" 0]

def chunksCommand : Command :=
  subcommand "chunks" "Extract the chunks of a file relevant to some keywords as JSON"
    [pathArg "file" "FILE" 1,
     { id := "keywords", short := some 'k', long := some "keyword", valueName := "KEYWORDS",
       action := .many, required := true, least := 1, most := none, order := 0 },
     contextArg 1,
     textOption "pinned_class" "pinned-class" "PINNED_CLASS" 2
       "A class to fall back on when a keyword mentions it but nothing matched"]

def relocateCommand : Command :=
  subcommand "relocate" "Rewrite previously extracted chunks with replacement texts"
    [pathArg "file" "FILE" 1,
     pathArg "chunks" "CHUNKS" 2 "JSON list of chunks, as printed by `chunks`",
     { id := "replacements", index := some 3, valueName := "REPLACEMENTS", action := .many,
       kind := .path, required := true, least := 1, most := some 1,
       help := "One file of replacement text per chunk, in the same order" },
     contextArg 0,
     switch "dry_run" "dry-run" 1 "Show what would be done, but don't modify files." (some 'n')]

/-- The `help` command: it names the commands whose help to show. -/
def helpCommand : Command :=
  { name := "help", usageName := "linepatch help",
    about := "Print this message or the help of the given subcommand(s)",
    args :=
      [{ id := "subcommand", index := some 1, valueName := "COMMAND", action := .many,
         least := 0, most := none, help := "Print help for the subcommand(s)" }] }

def linepatch : Program :=
  { top :=
      { name := "linepatch", usageName := "linepatch",
        about := "Line-level patches and drift-tolerant chunk relocation.",
        longAbout := some ("Diffs files into line edits, validates and previews them, and extracts " ++
          "code chunks that can later be rewritten even after the file has shifted."),
        args := [verboseArg, helpArg true, versionArg], needsCommand := true }
    commands := [diffCommand, validateCommand, previewCommand, chunksCommand, relocateCommand,
      helpCommand]
    version := "linepatch 0.1.0" }

/-- What a command line asks `linepatch` to do. -/
inductive Task where
  /-- Diff `original` against `edited`; print the patch, or its statistics. -/
  | diff (original edited : String) (name : Option String) (plain stats : Bool)
  /-- Check the patch in `patch` against `original`. -/
  | validate (original patch : String) (name : Option String)
  /-- Print `original` as the patch in `patch` would leave it. -/
  | preview (original patch : String) (name : Option String)
  /-- Print the chunks of `file` relevant to the keywords. -/
  | chunks (file : String) (keywords : List String) (contextLines : Nat) (pinnedClass : Option String)
  /-- Put replacement texts in place of the chunks listed in `chunks`, in `file`. -/
  | relocate (file chunks : String) (replacements : List String) (contextLines : Nat) (dryRun : Bool)
  deriving Repr, Inhabited

/-- A task with the log detail asked for: 0 shows warnings and errors, 1 adds information, 2
debugging and 3 or more tracing. -/
structure Request where
  verbosity : Nat
  task : Task
  deriving Repr, Inhabited

def Matches.first (m : Matches) (id : String) : Option String := (m.values id).head?

def Matches.text (m : Matches) (id : String) : String := (m.first id).getD ""

def Matches.count (m : Matches) (id : String) (default : Nat) : Nat :=
  match (m.first id).map readCount with
  | some (.ok n) => n
  | _ => default

def Matches.flag (m : Matches) (id : String) : Bool := m.has id

/-- How often a counter was given, at most 255. -/
def Matches.times (m : Matches) (id : String) : Nat := min (m.values id).length 255

def taskOf (name : String) (m : Matches) : Option Task :=
  if name == "diff" then
    some (.diff (m.text "original") (m.text "edited") (m.first "name") (m.flag "plain") (m.flag "stats"))
  else if name == "validate" then some (.validate (m.text "original") (m.text "patch") (m.first "name"))
  else if name == "preview" then some (.preview (m.text "original") (m.text "patch") (m.first "name"))
  else if name == "chunks" then
    some (.chunks (m.text "file") (m.values "keywords") (m.count "context_lines" 10)
      (m.first "pinned_class"))
  else if name == "relocate" then
    some (.relocate (m.text "file") (m.text "chunks") (m.values "replacements")
      (m.count "context_lines" 10) (m.flag "dry_run"))
  else none

/-- Reads a `linepatch` command line. The log detail is the one given after the command when
`-v` was given there, else the one given before it. -/
def readLine (words : List String) : Except Stop Request := do
  let parsed ← parseLine linepatch words
  match parsed.below with
  | some (c, m) =>
    match taskOf c.name m with
    | some task =>
      let verbosity := if m.has "verbose" then m.times "verbose" else parsed.top.times "verbose"
      pure { verbosity, task }
    | none => throw (.nothingGiven (helpPage linepatch.top linepatch.commands false))
  | none => throw (.nothingGiven (helpPage linepatch.top linepatch.commands false))

end Linewise.Cli
