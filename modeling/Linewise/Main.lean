import Linewise.Cli.Run
import Linewise.Python.Blocks
/-! The `linepatch` command on the file system: the command line is run with files read and
written by path, what it prints goes to standard output and standard error, and its exit code
is the process's. -/
namespace Linewise.Cli

def fileErrorOf (e : IO.Error) : FileError :=
  match e with
  | .noFileOrDirectory _ _ _ => .notFound
  | .inappropriateType _ code _ =>
    if code == 21 then .isDirectory else if code == 20 then .notDirectory else .other (toString e)
  | _ => .other (toString e)

def systemHost : Host IO where
  read path := do
    try
      let text ← IO.FS.readFile path
      pure (.ok text)
    catch e => pure (.error (fileErrorOf e))
  write path text := do
    try
      IO.FS.writeFile path text
      pure (.ok ())
    catch e => pure (.error (fileErrorOf e))

end Linewise.Cli

/-- Runs `linepatch` with the process's arguments, blocks found by the Python recognizer. -/
def main (args : List String) : IO UInt32 := do
  let o ← Linewise.Cli.runLine Linewise.Cli.systemHost Linewise.Python.blockSource args
  IO.print o.out
  IO.eprint o.err
  pure (UInt32.ofNat o.code)
