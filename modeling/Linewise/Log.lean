/-! Log entries. Operations that explain their steps answer the entries they would log beside
their result; a front end decides which levels to show. Levels run from the most to the least
severe. -/
namespace Linewise

/-- How severe a log entry is. -/
inductive Level where
  | error
  | warn
  | info
  | debug
  | trace
  deriving DecidableEq, Repr, Inhabited

def Level.rank : Level → Nat
  | .error => 0
  | .warn => 1
  | .info => 2
  | .debug => 3
  | .trace => 4

/-- One log entry. -/
structure LogEntry where
  level : Level
  text : String
  deriving DecidableEq, Repr, Inhabited

namespace LogEntry

def error (t : String) : LogEntry := ⟨.error, t⟩
def warn (t : String) : LogEntry := ⟨.warn, t⟩
def info (t : String) : LogEntry := ⟨.info, t⟩
def debug (t : String) : LogEntry := ⟨.debug, t⟩
def trace (t : String) : LogEntry := ⟨.trace, t⟩

/-- An entry as printed: its level's prefix (none for information) and its text. -/
def line (e : LogEntry) : String :=
  let lead := match e.level with
    | .error => "error: "
    | .warn => "warning: "
    | .info => ""
    | .debug => "debug: "
    | .trace => "trace: "
  lead ++ e.text ++ "\n"

/-- Whether an entry shows at a log detail: warnings and errors always, information from 1,
debugging from 2, tracing from 3. -/
def shows (e : LogEntry) (verbosity : Nat) : Bool := e.level.rank ≤ verbosity + 1

end LogEntry

end Linewise
