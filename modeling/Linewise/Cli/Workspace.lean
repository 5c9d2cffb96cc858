import Linewise.FileMap
/-! The directory a command runs in, as a map from relative file paths to texts; a directory is a
proper prefix of a path ending at a `/`. A path is walked a component at a time as the system does
(`.` stays, `..` goes up, above the map nothing is known), and errors carry the system's words. -/
namespace Linewise.Cli

/-- Why a file could not be read or written. -/
inductive FileError where
  | notFound
  | notDirectory
  | isDirectory
  /-- Any other reason, as the system words it. -/
  | other (text : String)
  deriving DecidableEq, Repr, Inhabited

def FileError.text : FileError → String
  | .notFound => "No such file or directory (os error 2)"
  | .notDirectory => "Not a directory (os error 20)"
  | .isDirectory => "Is a directory (os error 21)"
  | .other t => t

/-- Where walking a path ends. -/
inductive Spot where
  /-- A directory of the map, by its components. -/
  | dir (parts : List String)
  /-- A file of the map, by its key. -/
  | file (key : String)
  /-- A directory above the map. -/
  | above
  deriving DecidableEq, Repr, Inhabited

def hasDirectory (files : FileMap) (parts : List String) : Bool :=
  parts.isEmpty || files.names.any fun k => k.startsWith ("/".intercalate parts ++ "/")

def stepSpot (files : FileMap) : Spot → String → Except FileError Spot
  | .file _, _ => .error .notDirectory
  | .above, c =>
    if c == "" || c == "." || c == ".." then .ok .above else .error .notFound
  | .dir parts, c =>
    if c == "" || c == "." then .ok (.dir parts)
    else if c == ".." then .ok (if parts.isEmpty then .above else .dir parts.dropLast)
    else
      let next := parts ++ [c]
      let key := "/".intercalate next
      if files.contains key then .ok (.file key)
      else if hasDirectory files next then .ok (.dir next)
      else .error .notFound

/-- Walks a path from the directory the command runs in. A path from the root of the system
starts above the map. -/
def locate (files : FileMap) (path : String) : Except FileError Spot :=
  match path.splitOn "/" with
  | "" :: rest => if path.isEmpty then .error .notFound else rest.foldlM (stepSpot files) .above
  | parts => parts.foldlM (stepSpot files) (.dir [])

def readIn (files : FileMap) (path : String) : Except FileError String := do
  match ← locate files path with
  | .file key => pure ((files.get? key).getD "")
  | _ => throw .isDirectory

/-- Writes a file's text; the file must be one that can be read. -/
def writeIn (files : FileMap) (path : String) (text : String) : Except FileError FileMap := do
  match ← locate files path with
  | .file key => pure (files.insert key text)
  | _ => throw .isDirectory

end Linewise.Cli
